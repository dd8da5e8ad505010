import SpineGrammar.Tree.Basic

/-!
# Edits

A tree can be built by a series of edits. An edit that faults half way keeps what it did until
then: a node that was added to the table stays there if its parent turns out to be missing, and so
do the nodes that were copied before one that could not be.
-/

namespace SpineGrammar

/-- Values for the annotations of a node; an annotation without a value is left alone. -/
structure Annotations where
  isFoot : Option Bool := none
  attached : Option Bool := none
  attachedSlot : Option (Option Slot) := none
  predicate : Option (Option String) := none
  role : Option (Option String) := none
  treeType : Option (Option String) := none
  rolesetId : Option (Option String) := none
  argCount : Option (Option Nat) := none
  treeId : Option (Option Nat) := none
  wordCount : Option Nat := none
  treeCount : Option Nat := none
  deriving DecidableEq

/-- Writes the annotations that have a value. -/
def Node.annotate (n : Node) (a : Annotations) : Node :=
  { n with
    isFoot := a.isFoot.getD n.isFoot
    attached := a.attached.getD n.attached
    attachedSlot := a.attachedSlot.getD n.attachedSlot
    predicate := a.predicate.getD n.predicate
    role := a.role.getD n.role
    treeType := a.treeType.getD n.treeType
    rolesetId := a.rolesetId.getD n.rolesetId
    argCount := a.argCount.getD n.argCount
    treeId := a.treeId.getD n.treeId
    wordCount := a.wordCount.getD n.wordCount
    treeCount := a.treeCount.getD n.treeCount }

/-- The last child first, the others after it. -/
def Node.rotateChildren (n : Node) : Node :=
  { n with children := n.children.getLast?.toList ++ n.children.dropLast }

/-- One step in building a tree, done at a given node. -/
inductive Edit where
  /-- Adds a new node as the last child. -/
  | pushNode (node : Node)
  /-- Adds a word as the last child. -/
  | pushLeaf (word : String)
  /-- Copies another tree into the table and, if a position is given, puts its root there. -/
  | graft (tree : Tree) (position : Option Nat)
  | pushRule (rule : Rule)
  | consumeRule (rule : Rule)
  | annotate (annotations : Annotations)
  /-- Moves the last child to the front. -/
  | rotate

/-- What an edit has to tell. -/
inductive EditReport where
  | nothing
  /-- The id of a node that came in. -/
  | id (id : Nat)
  /-- Whether a rule was there to be consumed. -/
  | consumed (found : Bool)
  deriving DecidableEq, Repr

namespace Tree

/-- Changes one node, and leaves the tree alone if there is no such node. -/
def edited (t : Tree) (place : Nat) (f : Node → Node) (report : EditReport) :
    Tree × Checked EditReport :=
  match t.update place f with
  | .ok changed => (changed, .ok report)
  | .error e => (t, .error e)

/-- What a graft leaves behind if some id of `other` cannot be raised: copies of the nodes before
    the first such one. -/
def graftedPart (t other : Tree) : Tree :=
  t.extend (other.nodes.toList.takeWhile (Node.fits other.nodes.size t.nodes.size)).toArray

/-- Puts a child at a position of a child list that has the position. -/
def insertChildAt (t : Tree) (place position id : Nat) : Tree × Checked EditReport :=
  match t.node place with
  | .error e => (t, .error e)
  | .ok n =>
    if position ≤ n.children.length then
      t.edited place (·.insertChild position (.node id)) (.id id)
    else (t, .error .positionPastEnd)

/-- Does one edit at the node `place`, and tells what became of it. -/
def edit (t : Tree) (place : Nat) : Edit → Tree × Checked EditReport
  | .pushNode n =>
    (t.append n).edited place (·.pushChild (.node t.nodes.size)) (.id t.nodes.size)
  | .pushLeaf word => t.edited place (·.pushChild (.leaf word)) .nothing
  | .graft other position =>
    match t.graft other with
    | .error e => (t.graftedPart other, .error e)
    | .ok (grown, id) =>
      match position with
      | none => (grown, .ok (.id id))
      | some i => grown.insertChildAt place i id
  | .pushRule r => t.edited place (·.pushRule r) .nothing
  | .consumeRule r =>
    match t.node place with
    | .error e => (t, .error e)
    | .ok n => t.edited place (·.consumeRule r) (.consumed (decide (r ∈ n.rules)))
  | .annotate a => t.edited place (·.annotate a) .nothing
  | .rotate =>
    match t.node place with
    | .error e => (t, .error e)
    | .ok n =>
      if n.children.isEmpty then (t, .error .nothingToRotate)
      else t.edited place Node.rotateChildren .nothing

end Tree

end SpineGrammar
