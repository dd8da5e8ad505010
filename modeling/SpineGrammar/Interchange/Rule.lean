import SpineGrammar.Json.Decode
import SpineGrammar.Rule

/-!
# Rules in JSON

The JSON form of addresses, slots, locations and rules.
-/

namespace SpineGrammar

open Json

/-- A list of indices. -/
def Address.ofJson? : Decoder Address := asList asIndex

/-- A list of indices. -/
def Address.toJson (a : Address) : Json := .array (a.map Json.nat)

/-- The name of a slot. -/
def Slot.ofJson? : Decoder Slot := fun j => do Slot.ofName? (← asCase j)

/-- The name of a slot. -/
def Slot.toJson (s : Slot) : Json := .str s.name

/-- The code word of a kind of rule. -/
def RuleKind.ofJson? : Decoder RuleKind := fun j => do RuleKind.ofCode? (← asCase j)

/-- The code word of a kind of rule. -/
def RuleKind.toJson (k : RuleKind) : Json := .str k.code

/-- A record with all three fields. -/
def Location.ofJson? : Decoder Location := fun j => do
  let fs ← asFields ["treeposition", "slot", "order"] j
  let target ← fs.required "treeposition" Address.ofJson?
  let slot ← fs.required "slot" Slot.ofJson?
  let order ← fs.required "order" asIndex
  return ⟨target, slot, order⟩

/-- A record with all three fields. -/
def Location.toJson (l : Location) : Json :=
  .obj [("treeposition", Address.toJson l.target), ("slot", l.slot.toJson), ("order", .nat l.order)]

/-- How often each label was seen. -/
def countsToJson (counts : SortedMap String Nat) : Json :=
  .obj (counts.entries.map fun e => (e.1, Json.nat e.2))

/-- A record in which role and description may be absent and the counts may be left out. -/
def Rule.ofJson? : Decoder Rule := fun j => do
  let fs ← asFields
    ["rule_type", "pos", "action_location", "semantic_role", "role_description", "attach_counts"] j
  let kind ← fs.required "rule_type" RuleKind.ofJson?
  let pos ← fs.required "pos" asString
  let location ← fs.required "action_location" Location.ofJson?
  let role ← fs.optional "semantic_role" asString
  let description ← fs.optional "role_description" asString
  let attachCounts ← fs.withDefault "attach_counts" .empty (asMap asCount)
  return { kind, pos, location, role, description, attachCounts }

/-- A record with all fields. -/
def Rule.toJson (r : Rule) : Json :=
  .obj [
    ("rule_type", r.kind.toJson),
    ("pos", .str r.pos),
    ("action_location", r.location.toJson),
    ("semantic_role", .opt .str r.role),
    ("role_description", .opt .str r.description),
    ("attach_counts", countsToJson r.attachCounts)]

end SpineGrammar
