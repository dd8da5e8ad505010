import SpineGrammar.Tree.Basic

/-!
# What a node table denotes

A `Forest` is a sequence of words and labelled trees; a `Branch` is one labelled tree. Unfolding a
node of a table gives the branch it denotes, each node of which still carries its id. Words and
bracketed text are read off the branch; the nodes with their addresses are found by a walk through
the table, breadth-first with a queue and depth-first with a stack.
-/

namespace SpineGrammar

/-- A sequence of words and of nodes with what hangs below them. -/
inductive Forest where
  | nil
  | leaf (word : String) (rest : Forest)
  | node (id : Nat) (data : Node) (below rest : Forest)
  deriving DecidableEq

/-- A node with what hangs below it. -/
structure Branch where
  id : Nat
  data : Node
  below : Forest
  deriving DecidableEq

/-- A node of a branch: its id, its address from the branch's root and its data. -/
structure Place where
  id : Nat
  address : Address
  data : Node
  deriving DecidableEq

/-! ## Unfolding -/

namespace Tree

/-- What a child list denotes, where `branch` tells what a node denotes. -/
def unfoldChildren (branch : Nat → Checked Branch) : List Child → Checked Forest
  | [] => .ok .nil
  | .leaf word :: rest => return .leaf word (← unfoldChildren branch rest)
  | .node id :: rest => do
    let b ← branch id
    return .node b.id b.data b.below (← unfoldChildren branch rest)

/-- The branch that a node denotes, if it is at most `depth` levels deep. -/
def branchWithin (t : Tree) : (depth : Nat) → Nat → Checked Branch
  | 0, _ => .error .endlessBranch
  | depth + 1, id => do
    let n ← t.node id
    return ⟨id, n, ← unfoldChildren (t.branchWithin depth) n.children⟩

/-- The branch that a node denotes. No path without repetition has more nodes than the table, so
    a deeper branch has no end. -/
def branchAt (t : Tree) (id : Nat) : Checked Branch :=
  t.branchWithin (t.nodes.size + 1) id

/-- The branch that a tree denotes. -/
def unfold (t : Tree) : Checked Branch := t.branchAt t.root

end Tree

/-! ## Words and nodes -/

namespace Forest

/-- The words, left to right. -/
def words : Forest → List String
  | nil => []
  | leaf word rest => word :: rest.words
  | node _ _ below rest => below.words ++ rest.words

/-- The nodes, each before what hangs below it and that before what follows it, where the forest
    starts at child `i` of the node at `parent`. -/
def depthFirst (parent : Address) (i : Nat) : Forest → List Place
  | nil => []
  | leaf _ rest => rest.depthFirst parent (i + 1)
  | node id data below rest =>
    ⟨id, parent.child i, data⟩ :: (below.depthFirst (parent.child i) 0
      ++ rest.depthFirst parent (i + 1))

/-- The number of nodes. -/
def size : Forest → Nat
  | nil => 0
  | leaf _ rest => rest.size
  | node _ _ below rest => below.size + rest.size + 1

/-- The number of levels. -/
def height : Forest → Nat
  | nil => 0
  | leaf _ rest => rest.height
  | node _ _ below rest => max (below.height + 1) rest.height

/-- The branches, each with its address, where the forest starts at child `i` of the node at
    `parent`. -/
def branches (parent : Address) (i : Nat) : Forest → List (Address × Branch)
  | nil => []
  | leaf _ rest => rest.branches parent (i + 1)
  | node id data below rest => (parent.child i, ⟨id, data, below⟩) :: rest.branches parent (i + 1)

/-- The bracketed text of each item. -/
def texts : Forest → List String
  | nil => []
  | leaf word rest => word :: rest.texts
  | node _ data below rest =>
    ("(" ++ " ".intercalate (data.label :: below.texts) ++ ")") :: rest.texts

end Forest

namespace Branch

/-- The words, left to right. -/
def words (b : Branch) : List String := b.below.words

/-- The nodes in depth-first order: each before what hangs below it. -/
def depthFirst (b : Branch) : List Place :=
  ⟨b.id, [], b.data⟩ :: b.below.depthFirst [] 0

/-- The number of nodes. -/
def size (b : Branch) : Nat := b.below.size + 1

/-- The number of levels. -/
def height (b : Branch) : Nat := b.below.height + 1

/-- The nodes of each level, left to right, each with its address. -/
def level (b : Branch) : Nat → List (Address × Branch)
  | 0 => [([], b)]
  | k + 1 => (b.level k).flatMap fun s => s.2.below.branches s.1 0

/-- The nodes in breadth-first order: level by level. -/
def breadthFirst (b : Branch) : List Place :=
  (List.range b.height).flatMap fun k => (b.level k).map fun s => ⟨s.2.id, s.1, s.2.data⟩

/-- The bracketed text: `(S (NP dog) (VP runs))`. -/
def text (b : Branch) : String :=
  "(" ++ " ".intercalate (b.data.label :: b.below.texts) ++ ")"

end Branch

/-! ## Walking through a table -/

/-- Which nodes a walk visits first of those that wait: the ones that wait longest, or the ones
    that were found last. -/
inductive Discipline where
  | queue
  | stack
  deriving DecidableEq, Repr

/-- Lets the children of a node, in order, join the nodes that wait. -/
def Discipline.enter {α : Type} : Discipline → (found waiting : List α) → List α
  | queue, found, waiting => waiting ++ found
  | stack, found, waiting => found ++ waiting

/-- The node children of a list, each with its address, where the list starts at child `i` of the
    node at `parent`. -/
def Child.spots (parent : Address) (i : Nat) : List Child → List (Nat × Address)
  | [] => []
  | .leaf _ :: rest => spots parent (i + 1) rest
  | .node id :: rest => (id, parent.child i) :: spots parent (i + 1) rest

namespace Tree

/-- Visits the first of the nodes that wait, lets its children join them, and goes on until none
    waits; at most `steps` nodes are visited. -/
def walk (t : Tree) (d : Discipline) : (steps : Nat) → List (Nat × Address) → Checked (List Place)
  | _, [] => .ok []
  | 0, _ :: _ => .error .endlessBranch
  | steps + 1, (id, address) :: waiting => do
    let n ← t.node id
    let later ← t.walk d steps (d.enter (Child.spots address 0 n.children) waiting)
    return ⟨id, address, n⟩ :: later

/-- The nodes below the root in the order of a walk. The walk has an end if the branch has one, and
    visits each of its nodes once. -/
def visit (t : Tree) (d : Discipline) : Checked (List Place) := do
  let b ← t.unfold
  t.walk d b.size [(t.root, [])]

/-- The nodes in depth-first order. -/
def depthFirst (t : Tree) : Checked (List Place) := t.visit .stack

/-- The nodes in breadth-first order. -/
def breadthFirst (t : Tree) : Checked (List Place) := t.visit .queue

/-! ## Questions about a tree -/

/-- The bracketed text of a tree. -/
def text (t : Tree) : Checked String := return (← t.unfold).text

/-- The address of a node from the root, if the node hangs below it. -/
def addressOf? (t : Tree) (id : Nat) : Checked (Option Address) := do
  return ((← t.breadthFirst).find? (·.id = id)).map (·.address)

/-- The words below a node, left to right. -/
def wordsUnder (t : Tree) (id : Nat) : Checked (List String) := return (← t.branchAt id).words

/-- The words of a tree, left to right. -/
def words (t : Tree) : Checked (List String) := t.wordsUnder t.root

/-- The words of a tree with blanks between them. -/
def sentence (t : Tree) : Checked String := return " ".intercalate (← t.words)

end Tree

end SpineGrammar
