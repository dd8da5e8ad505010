import SpineGrammar.Bounds
import SpineGrammar.Sorted.Set
import SpineGrammar.Tree.Forest

/-!
# The frontier of a derivation

What a tree still waits for: the rules to be served next, the labels that they accept, and the
number of rules that are open at all.
-/

namespace SpineGrammar.Tree

/-- The rules to be served next, node by node in depth-first order. -/
def applicableRules (t : Tree) : Checked (List Rule) := do
  return (← t.depthFirst).flatMap fun p => applicable p.data.rules

/-- The root labels that some rule accepts next. -/
def openLabels (t : Tree) : Checked (SortedSet String) := do
  return .ofList ((← t.applicableRules).map (·.pos))

/-- Whether no rule waits any more. -/
def isComplete (t : Tree) : Checked Bool := return (← t.applicableRules).isEmpty

/-- The number of open rules, to be served next or later. -/
def ruleCount (t : Tree) : Checked Nat := do
  return total ((← t.depthFirst).map (·.data.rules.length))

/-- Every rule of the tree, node by node in depth-first order. -/
def allRules (t : Tree) : Checked (List Rule) := do
  return (← t.depthFirst).flatMap (·.data.rules)

/-- Every label of a node and every label that a rule accepts. -/
def labelSet (t : Tree) : Checked (SortedSet String) := do
  return .ofList ((← t.depthFirst).flatMap fun p => p.data.label :: p.data.rules.map (·.pos))

end SpineGrammar.Tree
