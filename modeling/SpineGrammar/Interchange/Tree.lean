import SpineGrammar.Interchange.Rule
import SpineGrammar.Tree.Basic

/-!
# Trees in JSON

The JSON form of a node table. Fields are taken as they are: a final `^` of a label is part of the
label, equal rules stay apart, and ids need not name a node of the table.
-/

namespace SpineGrammar

open Json

/-- An object whose one member is a node id or a word. -/
def Child.ofJson? : Decoder Child := fun j => do
  match ← asCaseOf j with
  | ("Node", contents) => return .node (← asIndex contents)
  | ("Leaf", contents) => return .leaf (← asString contents)
  | _ => none

/-- An object whose one member is a node id or a word. -/
def Child.toJson : Child → Json
  | .node id => .obj [("Node", .nat id)]
  | .leaf word => .obj [("Leaf", .str word)]

/-- The names of the fields of a node, in order. -/
def Node.fieldNames : List String :=
  ["label", "children", "rules", "is_spine_foot", "attached", "attached_slot", "predicate",
    "semantic_role", "tree_type", "roleset_id", "num_args", "tree_id", "lexicalization_count",
    "tree_count"]

/-- A record in which the annotations without a value may be absent. -/
def Node.ofJson? : Decoder Node := fun j => do
  let fs ← asFields Node.fieldNames j
  let label ← fs.required "label" asString
  let children ← fs.required "children" (asList Child.ofJson?)
  let rules ← fs.required "rules" (asList Rule.ofJson?)
  let isFoot ← fs.required "is_spine_foot" asBool
  let attached ← fs.required "attached" asBool
  let attachedSlot ← fs.optional "attached_slot" Slot.ofJson?
  let predicate ← fs.optional "predicate" asString
  let role ← fs.optional "semantic_role" asString
  let treeType ← fs.optional "tree_type" asString
  let rolesetId ← fs.optional "roleset_id" asString
  let argCount ← fs.optional "num_args" asCount
  let treeId ← fs.optional "tree_id" asIndex
  let wordCount ← fs.required "lexicalization_count" asCount
  let treeCount ← fs.required "tree_count" asCount
  return {
    label, children, rules, isFoot, attached, attachedSlot, predicate, role, treeType, rolesetId,
    argCount, treeId, wordCount, treeCount }

/-- A record with all fields. -/
def Node.toJson (n : Node) : Json :=
  .obj [
    ("label", .str n.label),
    ("children", .array (n.children.map Child.toJson)),
    ("rules", .array (n.rules.map Rule.toJson)),
    ("is_spine_foot", .bool n.isFoot),
    ("attached", .bool n.attached),
    ("attached_slot", .opt Slot.toJson n.attachedSlot),
    ("predicate", .opt .str n.predicate),
    ("semantic_role", .opt .str n.role),
    ("tree_type", .opt .str n.treeType),
    ("roleset_id", .opt .str n.rolesetId),
    ("num_args", .opt .nat n.argCount),
    ("tree_id", .opt .nat n.treeId),
    ("lexicalization_count", .nat n.wordCount),
    ("tree_count", .nat n.treeCount)]

/-- A record with the node table and the root. -/
def Tree.ofJson? : Decoder Tree := fun j => do
  let fs ← asFields ["nodes", "root"] j
  let nodes ← fs.required "nodes" (asList Node.ofJson?)
  let root ← fs.required "root" asIndex
  return ⟨nodes.toArray, root⟩

/-- A record with the node table and the root. -/
def Tree.toJson (t : Tree) : Json :=
  .obj [("nodes", .array (t.nodes.toList.map Node.toJson)), ("root", .nat t.root)]

end SpineGrammar
