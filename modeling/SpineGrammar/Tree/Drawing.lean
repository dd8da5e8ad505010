import SpineGrammar.Bounds
import SpineGrammar.Text.Width
import SpineGrammar.Tree.Forest

/-!
# Drawings of trees

A drawing has the words on its first line and one line for each node in depth-first order, with a
bracket under the words that the node dominates. A node without words is a bar where its words
would begin. Rules, if they are shown, follow their node on lines of their own.

    dog  runs
    ╰───────╯S pred=run
      └─att NP on (), slot left, order 0, role ARG0
    ╰─╯NP
         ╰──╯VP
-/

namespace SpineGrammar

/-- What a drawing shows beside words, brackets and labels. -/
structure DrawingStyle where
  rules : Bool
  semantics : Bool
  deriving DecidableEq, Repr

/-- `count` copies of one character. -/
def repeated (count : Nat) (c : Char) : String := String.ofList (List.replicate count c)

/-! ## The line of words -/

/-- The blank columns between neighbouring words. -/
def wordGap : Nat := 2

/-- The line of words as far as it is written, with the first column of each word and the column
    after its last. -/
structure WordLine where
  text : String
  columns : List (Nat × Nat)
  deriving DecidableEq, Repr

namespace WordLine

/-- Writes one more word. A column is the width of the text that stands before it. -/
def push (width : String → Nat) (l : WordLine) (word : String) : WordLine :=
  let lead := if l.columns.isEmpty then l.text else l.text ++ repeated wordGap ' '
  { text := lead ++ word, columns := l.columns ++ [(width lead, width (lead ++ word))] }

/-- The line of some words. -/
def ofWords (width : String → Nat) (words : List String) : WordLine :=
  words.foldl (push width) ⟨"", []⟩

/-- The columns of a word that has to be there. -/
def wordAt (l : WordLine) (i : Nat) : Checked (Nat × Nat) :=
  match l.columns[i]? with
  | some c => .ok c
  | none => .error (.missingWord i)

end WordLine

/-! ## The words below each node -/

/-- The words that a node dominates: how many words come before them, and how many have come when
    they end. -/
structure WordSpan where
  data : Node
  first : Nat
  next : Nat
  deriving DecidableEq

/-- The spans of the nodes of a forest in depth-first order, after `next` words, and how many words
    have come when the forest ends. -/
def Forest.spans (next : Nat) : Forest → List WordSpan × Nat
  | .nil => ([], next)
  | .leaf _ rest => rest.spans (next + 1)
  | .node _ n below rest =>
    let inner := below.spans next
    let later := rest.spans inner.2
    (⟨n, next, inner.2⟩ :: (inner.1 ++ later.1), later.2)

/-- The spans of the nodes of a branch in depth-first order. -/
def Branch.spans (b : Branch) : List WordSpan :=
  let inner := b.below.spans 0
  ⟨b.data, 0, inner.2⟩ :: inner.1

/-- The first column of a span and the column after its last, on a line with its end at `lineEnd`.
    A span without words is empty, at the next word or at the end of the line. -/
def WordSpan.columns (l : WordLine) (lineEnd : Nat) (s : WordSpan) : Checked (Nat × Nat) :=
  if s.first < s.next then do
    let first ← l.wordAt s.first
    let last ← l.wordAt (s.next - 1)
    return (first.1, last.2)
  else
    let place := ((l.columns[s.first]?).map (·.1)).getD lineEnd
    return (place, place)

/-! ## The lines of a drawing -/

/-- A bracket of a given width; a bar if it has none. -/
def bracket : Nat → String
  | 0 => "┆"
  | 1 => "╰"
  | width + 2 => "╰" ++ repeated width '─' ++ "╯"

/-- The label of a node, with its predicate and role if they are shown. -/
def nodeCaption (style : DrawingStyle) (n : Node) : String :=
  if style.semantics then
    n.label ++ ((n.predicate.map (" pred=" ++ ·)).getD "") ++ ((n.role.map (" role=" ++ ·)).getD "")
  else n.label

/-- The lines for a node whose span has the given columns: its bracket and caption, and its rules if
    they are shown. -/
def entryLines (style : DrawingStyle) (n : Node) (start width : Nat) : List String :=
  let head := repeated start ' ' ++ bracket width ++ nodeCaption style n
  let rules := if style.rules then n.rules else []
  head :: rules.map fun r => repeated (start + 2) ' ' ++ "└─" ++ r.text

/-- The lines for one node below the line of words. -/
def WordSpan.draw (style : DrawingStyle) (l : WordLine) (lineEnd : Nat) (s : WordSpan) :
    Checked (List String) := do
  let c ← s.columns l lineEnd
  return entryLines style s.data c.1 (← difference c.2 c.1)

/-- The drawing of a branch, where `width` tells how many columns a text takes up. -/
def Branch.drawWith (width : String → Nat) (style : DrawingStyle) (b : Branch) :
    Checked String := do
  let l := WordLine.ofWords width b.words
  let entries ← b.spans.mapM (WordSpan.draw style l (width l.text))
  return "\n".intercalate (l.text :: entries.flatten)

/-- The drawing of a tree, where `width` tells how many columns a text takes up. -/
def Tree.drawWith (t : Tree) (width : String → Nat) (style : DrawingStyle) : Checked String := do
  (← t.unfold).drawWith width style

/-- The drawing of a tree. -/
def Tree.draw (t : Tree) (style : DrawingStyle) : Checked String := t.drawWith displayWidth style

end SpineGrammar
