import SpineGrammar.Interchange.Rule
import SpineGrammar.Json.Reader
import SpineGrammar.Records.Basic

/-!
# Records in JSON

The JSON form of grammar records. A file of records is an array of them.
-/

namespace SpineGrammar

open Json

/-- A list of indices, or else a text. -/
def AddressRecord.ofJson? : Decoder AddressRecord := fun j =>
  match Address.ofJson? j with
  | some a => some (.indices a)
  | none => (asString j).map .dotted

/-- A list of indices, or a text. -/
def AddressRecord.toJson : AddressRecord → Json
  | .indices a => a.toJson
  | .dotted text => .str text

/-- A record in which only the kind, the label and the address have to be there. -/
def RuleRecord.ofJson? : Decoder RuleRecord := fun j => do
  let fs ← asFields
    ["rule_type", "pos", "treeposition", "slot", "order", "semantic_role", "desc",
      "attach_counts"] j
  let kind ← fs.required "rule_type" RuleKind.ofJson?
  let pos ← fs.required "pos" asString
  let target ← fs.required "treeposition" AddressRecord.ofJson?
  let slot ← fs.withDefault "slot" none (asOption asSigned)
  let order ← fs.withDefault "order" none (asOption asIndex)
  let role ← fs.withDefault "semantic_role" none (asOption asString)
  let description ← fs.withDefault "desc" none (asOption asString)
  let attachCounts ← fs.withDefault "attach_counts" .empty (asMap asCount)
  return { kind, pos, target, slot, order, role, description, attachCounts }

/-- A record with all fields. -/
def RuleRecord.toJson (r : RuleRecord) : Json :=
  .obj [
    ("rule_type", r.kind.toJson),
    ("pos", .str r.pos),
    ("treeposition", r.target.toJson),
    ("slot", .opt .integer r.slot),
    ("order", .opt .nat r.order),
    ("semantic_role", .opt .str r.role),
    ("desc", .opt .str r.description),
    ("attach_counts", countsToJson r.attachCounts)]

/-- A record in which only the spine has to be there. -/
def TreeRecord.ofJson? : Decoder TreeRecord := fun j => do
  let fs ← asFields
    ["spine", "terminal", "lexicalization", "tree_type", "predicate", "roleset_id", "num_args",
      "tree_id", "rules"] j
  let spine ← fs.required "spine" asString
  let word ← fs.withDefault "terminal" none (asOption asString)
  let lexicon ← fs.withDefault "lexicalization" none (asOption (asMap asCount))
  let treeType ← fs.withDefault "tree_type" none (asOption asString)
  let predicate ← fs.withDefault "predicate" none (asOption asString)
  let rolesetId ← fs.withDefault "roleset_id" none (asOption asString)
  let argCount ← fs.withDefault "num_args" none (asOption asCount)
  let treeId ← fs.withDefault "tree_id" none (asOption asIndex)
  let rules ← fs.withDefault "rules" [] (asList RuleRecord.ofJson?)
  return { spine, word, lexicon, treeType, predicate, rolesetId, argCount, treeId, rules }

/-- A record with all fields. -/
def TreeRecord.toJson (r : TreeRecord) : Json :=
  .obj [
    ("spine", .str r.spine),
    ("terminal", .opt .str r.word),
    ("lexicalization", .opt countsToJson r.lexicon),
    ("tree_type", .opt .str r.treeType),
    ("predicate", .opt .str r.predicate),
    ("roleset_id", .opt .str r.rolesetId),
    ("num_args", .opt .nat r.argCount),
    ("tree_id", .opt .nat r.treeId),
    ("rules", .array (r.rules.map RuleRecord.toJson))]

namespace TreeRecord

/-- The records of a JSON array. -/
def ofString? (text : String) : Option (List TreeRecord) := do
  asList TreeRecord.ofJson? (← Json.ofString? text)

/-- The records of a JSON array, given as bytes. -/
def ofBytes? (bytes : List UInt8) : Option (List TreeRecord) := do
  asList TreeRecord.ofJson? (← Json.ofBytes? bytes)

end TreeRecord

end SpineGrammar
