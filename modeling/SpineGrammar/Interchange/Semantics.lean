import SpineGrammar.Interchange.Rule
import SpineGrammar.Semantics.Formula

/-!
# Graphs and formulas in JSON

The JSON form of role graphs and of formulas. Sets are arrays; the order and repetitions of what is
read carry no meaning.
-/

namespace SpineGrammar

open Json

/-- A set, as an array of its members. -/
def SortedSet.ofJson? {α : Type} [Ord α] [Std.LawfulEqOrd α] [Std.TransOrd α]
    (item : Decoder α) : Decoder (SortedSet α) :=
  fun j => (asList item j).map SortedSet.ofList

/-- A set, as an array of its members in ascending order. -/
def SortedSet.toJson {α : Type} [Ord α] (item : α → Json) (s : SortedSet α) : Json :=
  .array (s.elems.map item)

/-- A record in which argument and predicate may be absent. -/
def RoleEdge.ofJson? : Decoder RoleEdge := fun j => do
  let fs ← asFields ["role", "argument", "predicate"] j
  let role ← fs.required "role" asString
  let argument ← fs.optional "argument" Address.ofJson?
  let predicate ← fs.optional "predicate" asString
  return { role, argument, predicate }

/-- A record with the predicates as `nodes` and the edges. -/
def RoleGraph.ofJson? : Decoder RoleGraph := fun j => do
  let fs ← asFields ["nodes", "edges"] j
  let predicates ← fs.required "nodes" (SortedSet.ofJson? asString)
  let edges ← fs.required "edges" (SortedSet.ofJson? RoleEdge.ofJson?)
  return { predicates, edges }

/-- A record with name and arguments. -/
def Atom.ofJson? : Decoder Atom := fun j => do
  let fs ← asFields ["name", "args"] j
  let name ← fs.required "name" asString
  let args ← fs.required "args" (asList asString)
  return { name, args }

/-- A record with name and arguments. -/
def Atom.toJson (a : Atom) : Json := .obj [("name", .str a.name), ("args", .strs a.args)]

/-- A record with the entities and the atoms. -/
def Formula.ofJson? : Decoder Formula := fun j => do
  let fs ← asFields ["entities", "atoms"] j
  let entities ← fs.required "entities" (SortedSet.ofJson? asString)
  let atoms ← fs.required "atoms" (SortedSet.ofJson? Atom.ofJson?)
  return { entities, atoms }

end SpineGrammar
