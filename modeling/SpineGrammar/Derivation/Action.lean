import SpineGrammar.Attachment
import SpineGrammar.Bounds

/-!
# Actions

A derivation starts with a tree and goes on by inserting further trees. An action names the tree and
which of the two is meant; inserting a tree can have any number of outcomes.
-/

namespace SpineGrammar

/-- A move in a derivation. -/
inductive Action where
  /-- Start from this tree. -/
  | initial (t : Tree)
  /-- Insert this tree. -/
  | substitute (t : Tree)
  deriving DecidableEq

namespace Action

/-- The tree that an action brings in. -/
def tree : Action → Tree
  | initial t => t
  | substitute t => t

/-- Every derivation that an action leads to. Starting has just one; inserting has one for each
    legal place, and none before the start. -/
def results (a : Action) (current : Option Tree) : Checked (List Tree) :=
  match a, current with
  | initial t, _ => .ok [t]
  | substitute _, none => .ok []
  | substitute t, some d => d.attach t

/-- How often the tree was seen with its word. -/
def weight (a : Action) : Checked Nat := do
  return (← a.tree.rootNode).wordCount

/-- The share of the word among all words of the tree, and nothing if it was seen with none. -/
def prior (a : Action) : Checked Ratio := do
  let root ← a.tree.rootNode
  return if root.treeCount = 0 then ⟨0, 1⟩ else ⟨root.wordCount, root.treeCount⟩

/-- The action in words: `substitute (NP (NN dog))`. -/
def text (a : Action) : Checked String := do
  let t ← a.tree.text
  return match a with
    | initial _ => "initial " ++ t
    | substitute _ => "substitute " ++ t

end Action

/-- How a caller names an action: by its position in the list of actions, or as such. -/
inductive Selection where
  | index (i : Nat)
  | action (a : Action)
  deriving DecidableEq

end SpineGrammar
