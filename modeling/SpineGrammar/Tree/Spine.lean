import SpineGrammar.Tree.Basic

/-!
# The spine of a node

The spine goes through the first child of a node that is a word or that was not attached. A node
without such a child is the bottom of its own spine, which then runs through the gap between the
children attached on its left and those attached on its right.
-/

namespace SpineGrammar

/-- Where the spine passes through a child list: the position, and the number of children it
    takes up there. -/
structure SpineGap where
  index : Nat
  width : Nat
  deriving DecidableEq, Repr

/-- How many of `count` children stand left and right of the spine. -/
def SpineGap.sides (g : SpineGap) (count : Nat) : Nat × Nat :=
  (min g.index count, count - min (g.index + g.width) count)

/-- The position among `count` children for the `order`-th child of a side, if as many children as
    `order` says stand on that side. -/
def SpineGap.position? (g : SpineGap) (count : Nat) (slot : Slot) (order : Nat) : Option Nat :=
  match slot with
  | .left => if (g.sides count).1 = order then some (min order count) else none
  | .right =>
    if (g.sides count).2 = order then some (min (order + g.width + g.index) count) else none

namespace Tree

/-- The position of the first word or unattached node, where the list starts at position `i`. -/
def spineChildFrom (t : Tree) (i : Nat) : List Child → Checked (Option Nat)
  | [] => .ok none
  | .leaf _ :: _ => .ok (some i)
  | .node id :: rest => do
    let n ← t.node id
    if n.attached then t.spineChildFrom (i + 1) rest else return some i

/-- The position of the child that continues the spine, if there is one. -/
def spineChild? (t : Tree) (n : Node) : Checked (Option Nat) := t.spineChildFrom 0 n.children

/-- The number of children attached on the left, where every node of the list has to name a slot;
    `label` is the label of the node that they belong to. -/
def leftCount (t : Tree) (label : String) : List Child → Checked Nat
  | [] => .ok 0
  | .leaf _ :: rest => t.leftCount label rest
  | .node id :: rest => do
    let n ← t.node id
    match n.attachedSlot with
    | some .left => return (← t.leftCount label rest) + 1
    | some .right => t.leftCount label rest
    | none => .error (.slotlessChild label)

/-- Where the spine passes through the children of a node. -/
def gap (t : Tree) (id : Nat) : Checked SpineGap := do
  let n ← t.node id
  match ← t.spineChild? n with
  | some i => return ⟨i, 1⟩
  -- Without a word or an unattached node all children were attached, on one side or the other.
  | none => return ⟨← t.leftCount n.label n.children, 0⟩

/-- The last node on the path of last children that starts at a node, if the path has at most
    `length` nodes. -/
def lastBelow (t : Tree) : (length : Nat) → Nat → Checked Nat
  | 0, _ => .error .endlessBranch
  | length + 1, id => do
    let n ← t.node id
    match n.children.getLast? with
    | some (.node next) => t.lastBelow length next
    | _ => return id

/-- The end of the spine: the last node on the path of last children from the root. -/
def spineBottom (t : Tree) : Checked Nat := t.lastBelow (t.nodes.size + 1) t.root

end Tree

end SpineGrammar
