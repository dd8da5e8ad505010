import SpineGrammar.Tree.Basic

/-!
# Sound tables

Which tables are used as trees: ids name nodes, and no node below the root is reached on two paths,
so nothing is shared and nothing lies below itself. A table is a rooted tree if this holds of the
nodes below its root, whatever else it holds, and a tree if all its ids name nodes. It is sound if,
besides, its attached nodes name their slots and its nodes hold each rule once.
-/

namespace SpineGrammar.Tree

/-- Whether a path from the root leads to a node. -/
def Reaches (t : Tree) (id : Nat) : Prop := ∃ a, t.nodeAt a = .ok (some id)

/-- A table whose root and the children of whose nodes below the root are nodes, and in which one
    path at most leads to a node. -/
structure IsRootedTree (t : Tree) : Prop where
  root_lt : t.root < t.nodes.size
  child_lt : ∀ id n, t.Reaches id → t.node id = .ok n →
    ∀ child, Child.node child ∈ n.children → child < t.nodes.size
  path_unique : ∀ a a' id,
    t.nodeAt a = .ok (some id) → t.nodeAt a' = .ok (some id) → a = a'

/-- A table whose ids name nodes and in which one path at most leads to a node. -/
structure IsTree (t : Tree) : Prop where
  root_lt : t.root < t.nodes.size
  child_lt : ∀ n ∈ t.nodes, ∀ id, Child.node id ∈ n.children → id < t.nodes.size
  path_unique : ∀ a a' id,
    t.nodeAt a = .ok (some id) → t.nodeAt a' = .ok (some id) → a = a'

/-- Whether every attached node names the slot in which it stands. -/
def Slotted (t : Tree) : Prop :=
  ∀ n ∈ t.nodes, n.attached = true → ∃ slot, n.attachedSlot = some slot

/-- A table that is a tree, whose attached nodes name their slots, and whose nodes hold no rule
    twice. -/
structure Sound (t : Tree) : Prop extends IsTree t where
  slotted : t.Slotted
  rules_nodup : ∀ n ∈ t.nodes, n.rules.Nodup

end SpineGrammar.Tree
