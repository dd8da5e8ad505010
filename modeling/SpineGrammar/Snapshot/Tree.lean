import SpineGrammar.Snapshot.Decode
import SpineGrammar.Snapshot.Printer
import SpineGrammar.Snapshot.Reader
import SpineGrammar.Tree.Basic

/-!
# Snapshots of trees

A tree is written as a record with its node table and its root. Ids and addresses stand in
parentheses. In reading, fields may come in any order, unknown ones are ignored, a field that may be
absent may be left out, and a record may have the name of its type in front.
-/

namespace SpineGrammar

open Snapshot

/-! ## Encoding -/

/-- A list of indices in parentheses. -/
def Address.toValue (a : Address) : Value := .wrapped (.list (a.map Value.nat))

/-- The name of a slot. -/
def Slot.toValue (s : Slot) : Value := .word s.name

/-- A record with all three fields. -/
def Location.toValue (l : Location) : Value :=
  .record none [
    ("treeposition", Address.toValue l.target), ("slot", l.slot.toValue), ("order", .nat l.order)]

/-- A record with all fields. -/
def Rule.toValue (r : Rule) : Value :=
  .record none [
    ("rule_type", .word r.kind.code),
    ("pos", .text r.pos),
    ("action_location", r.location.toValue),
    ("semantic_role", .option .text r.role),
    ("role_description", .option .text r.description),
    ("attach_counts", .map (r.attachCounts.entries.map fun e => (.text e.1, .nat e.2)))]

/-- A named group: a node id in parentheses of its own, or a word. -/
def Child.toValue : Child → Value
  | .node id => .tuple (some "Node") [.wrapped (.nat id)]
  | .leaf word => .tuple (some "Leaf") [.text word]

/-- A record with all fields. -/
def Node.toValue (n : Node) : Value :=
  .record none [
    ("label", .text n.label),
    ("children", .list (n.children.map Child.toValue)),
    ("rules", .list (n.rules.map Rule.toValue)),
    ("is_spine_foot", .bool n.isFoot),
    ("attached", .bool n.attached),
    ("attached_slot", .option Slot.toValue n.attachedSlot),
    ("predicate", .option .text n.predicate),
    ("semantic_role", .option .text n.role),
    ("tree_type", .option .text n.treeType),
    ("roleset_id", .option .text n.rolesetId),
    ("num_args", .option .nat n.argCount),
    ("tree_id", .option .nat n.treeId),
    ("lexicalization_count", .nat n.wordCount),
    ("tree_count", .nat n.treeCount)]

/-- A record with the node table and the root. -/
def Tree.toValue (t : Tree) : Value :=
  .record none [
    ("nodes", .list (t.nodes.toList.map Node.toValue)), ("root", .wrapped (.nat t.root))]

/-- The snapshot of a tree. -/
def Tree.snapshot (t : Tree) : String := t.toValue.render

/-! ## Decoding -/

open Snapshot.Value

/-- A list of indices in parentheses. -/
def Address.ofValue? (d : Dialect) : Value → Option Address :=
  asWrapped d.bareWrappers "TreeAddress" (asList (asNatBelow indexBound))

/-- The name of a slot. -/
def Slot.ofValue? : Value → Option Slot
  | .word name => Slot.ofName? name
  | _ => none

/-- The code word of a kind of rule. -/
def RuleKind.ofValue? : Value → Option RuleKind
  | .word name => RuleKind.ofCode? name
  | _ => none

/-- A record with all three fields. -/
def Location.ofValue? (d : Dialect) (v : Value) : Option Location := do
  let fs ← asFields "ActionLocation" ["treeposition", "slot", "order"] v
  let target ← required fs "treeposition" (Address.ofValue? d)
  let slot ← required fs "slot" Slot.ofValue?
  let order ← required fs "order" (asNatBelow indexBound)
  return ⟨target, slot, order⟩

/-- A record in which role, description and counts may be left out. -/
def Rule.ofValue? (d : Dialect) (v : Value) : Option Rule := do
  let fs ← asFields "Rule"
    ["rule_type", "pos", "action_location", "semantic_role", "role_description",
      "attach_counts"] v
  let kind ← required fs "rule_type" RuleKind.ofValue?
  let pos ← required fs "pos" asText
  let location ← required fs "action_location" (Location.ofValue? d)
  let role ← optional d fs "semantic_role" asText
  let description ← optional d fs "role_description" asText
  let attachCounts ← withDefault fs "attach_counts" .empty asCounts
  return { kind, pos, location, role, description, attachCounts }

/-- A named group: a node id in parentheses of its own, or a word. -/
def Child.ofValue? (d : Dialect) : Value → Option Child
  | .tuple (some "Node") [v] =>
    (asWrapped (d.bareWrappers || d.bareCases) "NodeId" (asNatBelow indexBound) v).map .node
  | .tuple (some "Leaf") [v] => (asText v).map .leaf
  | _ => none

/-- A record in which the annotations without a value may be left out. -/
def Node.ofValue? (d : Dialect) (v : Value) : Option Node := do
  let fs ← asFields "TreeNode"
    ["label", "children", "rules", "is_spine_foot", "attached", "attached_slot", "predicate",
      "semantic_role", "tree_type", "roleset_id", "num_args", "tree_id", "lexicalization_count",
      "tree_count"] v
  let label ← required fs "label" asText
  let children ← required fs "children" (asList (Child.ofValue? d))
  let rules ← required fs "rules" (asList (Rule.ofValue? d))
  let isFoot ← required fs "is_spine_foot" asBool
  let attached ← required fs "attached" asBool
  let attachedSlot ← optional d fs "attached_slot" Slot.ofValue?
  let predicate ← optional d fs "predicate" asText
  let role ← optional d fs "semantic_role" asText
  let treeType ← optional d fs "tree_type" asText
  let rolesetId ← optional d fs "roleset_id" asText
  let argCount ← optional d fs "num_args" (asNatBelow countBound)
  let treeId ← optional d fs "tree_id" (asNatBelow indexBound)
  let wordCount ← required fs "lexicalization_count" (asNatBelow countBound)
  let treeCount ← required fs "tree_count" (asNatBelow countBound)
  return {
    label, children, rules, isFoot, attached, attachedSlot, predicate, role, treeType, rolesetId,
    argCount, treeId, wordCount, treeCount }

/-- A record with the node table and the root. -/
def Tree.ofValue? (d : Dialect) (v : Value) : Option Tree := do
  let fs ← asFields "ElementaryTree" ["nodes", "root"] v
  let nodes ← required fs "nodes" (asList (Node.ofValue? d))
  let root ← required fs "root" (asWrapped d.bareWrappers "NodeId" (asNatBelow indexBound))
  return ⟨nodes.toArray, root⟩

/-- The tree that a snapshot shows. -/
def Tree.ofSnapshot? (text : String) : Option Tree := do
  let (dialect, v) ← Snapshot.Value.ofString? text
  Tree.ofValue? dialect v

end SpineGrammar
