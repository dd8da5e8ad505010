import SpineGrammar.Tree.Forest

/-!
# Phrases

A phrase is what a tree says once its table is forgotten: a word, or a node with its features above
further phrases in order. Ids play no part in it, and neither do nodes of the table that do not
hang below the root.
-/

namespace SpineGrammar

/-- A word, or a node above an ordered list of phrases. -/
inductive Phrase where
  | word (w : String)
  | node (features : Features) (parts : List Phrase)

/-! ## The phrase of a tree -/

/-- The phrases of a forest, left to right. -/
def Forest.phrases : Forest → List Phrase
  | nil => []
  | leaf w rest => .word w :: rest.phrases
  | node _ data below rest => .node data.toFeatures below.phrases :: rest.phrases

/-- The phrase of a branch. -/
def Branch.phrase (b : Branch) : Phrase := .node b.data.toFeatures b.below.phrases

/-- The phrase of a tree. -/
def Tree.phrase (t : Tree) : Checked Phrase := return (← t.unfold).phrase

namespace Phrase

/-- The label of the topmost node. -/
def label : Phrase → String
  | word _ => ""
  | node f _ => f.label

/-- The open rules of the topmost node. -/
def rules : Phrase → List Rule
  | word _ => []
  | node f _ => f.rules

/-! ## Addresses -/

/-- The phrase at an address. -/
def at? : Phrase → Address → Option Phrase
  | p, [] => some p
  | word _, _ :: _ => none
  | node _ parts, i :: a =>
    match parts[i]? with
    | some q => q.at? a
    | none => none

/-- Changes the phrase at an address. -/
def modifyAt (f : Phrase → Phrase) : Address → Phrase → Phrase
  | [], p => f p
  | _ :: _, word w => word w
  | i :: a, node features parts => node features (parts.modify i (modifyAt f a))

/-! ## Levels -/

/-- The nodes of a list of phrases, each with its address, where the list starts at child `i` of
    the node at `parent`. -/
def nodes (parent : Address) (i : Nat) : List Phrase → List (Address × Phrase)
  | [] => []
  | word _ :: rest => nodes parent (i + 1) rest
  | node f parts :: rest => (parent.child i, node f parts) :: nodes parent (i + 1) rest

/-- The nodes right below a node at an address. -/
def nodesBelow : Address × Phrase → List (Address × Phrase)
  | (_, word _) => []
  | (a, node _ parts) => nodes a 0 parts

/-- The nodes of each level, left to right, each with its address. -/
def level (p : Phrase) : Nat → List (Address × Phrase)
  | 0 => [([], p)]
  | k + 1 => (p.level k).flatMap nodesBelow

mutual

/-- The number of levels of nodes. -/
def height : Phrase → Nat
  | word _ => 0
  | node _ parts => heightOfAll parts + 1

/-- The number of levels of nodes in a list of phrases. -/
def heightOfAll : List Phrase → Nat
  | [] => 0
  | p :: rest => max p.height (heightOfAll rest)

end

end Phrase

end SpineGrammar
