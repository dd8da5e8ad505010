import SpineGrammar.Semantics.Graph

/-!
# First-order atoms of a derivation

Each predicate of the role graph gives one atom whose arguments are its numbered roles in order.
An argument that is there is named by its label and address, and one more atom calls it by the
longest run of nouns below it; an argument still awaited is named by its place.
-/

namespace SpineGrammar

/-- A name applied to arguments. -/
structure Atom where
  name : String
  args : List String
  deriving DecidableEq, Repr

namespace Atom

/-- Atoms are ordered by name, then by arguments. -/
def order : Atom → Atom → Ordering :=
  compareLex (compareOn Atom.name) (compareOn Atom.args)

instance : Ord Atom := ⟨order⟩

instance : Std.TransOrd Atom :=
  inferInstanceAs (Std.TransCmp (compareLex (compareOn Atom.name) (compareOn Atom.args)))

instance : Std.LawfulEqOrd Atom where
  compare_self := Std.ReflCmp.compare_self
  eq_of_compare := by
    intro a b h
    have h' : order a b = .eq := h
    simp only [order, compareLex, compareOn, Ordering.then_eq_eq] at h'
    obtain ⟨h1, h2⟩ := h'
    cases a
    cases b
    simp_all

/-- The usual notation: `chase(NP_0, ARG1)`. -/
def text (a : Atom) : String := a.name ++ "(" ++ ", ".intercalate a.args ++ ")"

end Atom

/-- The entities that a derivation mentions and the atoms that it asserts. -/
structure Formula where
  entities : SortedSet String
  atoms : SortedSet Atom
  deriving DecidableEq

namespace Formula

/-- The formula that asserts nothing. -/
def empty : Formula := ⟨.empty, .empty⟩

/-- The atoms as texts. -/
def atomTexts (f : Formula) : SortedSet String := .ofList (f.atoms.elems.map Atom.text)

/-- Whether nothing is asserted. -/
def isEmpty (f : Formula) : Bool := f.atoms.elems.isEmpty

end Formula

/-! ## Runs of nouns -/

/-- The labels of nouns. -/
def nounLabels : List String := ["NN", "NNS", "NNP", "NNPS"]

/-- The words of a forest below a node, each with whether it hangs directly under a noun label;
    `noun` says so for the words of the top level. -/
def Forest.taggedWords (noun : Bool) : Forest → List (String × Bool)
  | .nil => []
  | .leaf word rest => (word, noun) :: rest.taggedWords noun
  | .node _ n below rest =>
    below.taggedWords (nounLabels.contains n.label) ++ rest.taggedWords noun

/-- The words of a branch, each with whether it hangs directly under a noun label. -/
def Branch.taggedWords (b : Branch) : List (String × Bool) :=
  b.below.taggedWords (nounLabels.contains b.data.label)

/-- Whether there is a word at a position and it is a noun. -/
def isNounAt (ws : List (String × Bool)) (i : Nat) : Bool := (ws[i]?).any (·.2)

/-- A scan for runs of nouns: the longest run so far, and the position where the run that is still
    open starts. -/
structure RunScan where
  best : List (String × Bool)
  start : Nat
  deriving DecidableEq, Repr

/-- Takes in the position `stop`. A noun there leaves the run open. Anything else, or the end of the
    words, closes it, and a closed run has to be longer than the best one to take its place. -/
def RunScan.step (ws : List (String × Bool)) (s : RunScan) (stop : Nat) : Checked RunScan :=
  if isNounAt ws stop then .ok s
  else do
    let length ← difference stop s.start
    let best ← if s.best.length < length then stretch s.start stop ws else pure s.best
    return { best, start := stop + 1 }

/-- The scan over all positions of the words and the one behind the last of them. -/
def RunScan.over (ws : List (String × Bool)) : Checked RunScan :=
  (List.range (ws.length + 1)).foldlM (RunScan.step ws) ⟨[], 0⟩

/-- The first of the longest runs of nouns. -/
def longestRun (ws : List (String × Bool)) : Checked (List String) :=
  return (← RunScan.over ws).best.map (·.1)

namespace Tree

/-- The longest run of nouns below a node, joined into one name. -/
def nounName? (t : Tree) (id : Nat) : Checked (Option String) := do
  let run ← longestRun (← t.branchAt id).taggedWords
  return if run.isEmpty then none else some ("_".intercalate run)

/-- The name that the nouns below an address make, if the address leads to a node. -/
def nounNameAt? (t : Tree) (a : Address) : Checked (Option String) := do
  match ← t.nodeAt a with
  | none => return none
  | some id => t.nounName? id

/-- The name of the entity at an address: label and indices. -/
def entityName (label : String) (a : Address) : String := label ++ "_" ++ a.suffix

/-- The entity that fills the `i`-th numbered role of a predicate, and the noun that names it. -/
def argument (t : Tree) (i : Nat) (e : RoleEdge) : Checked (String × Option String) := do
  match e.argument with
  | none => return ("ARG" ++ i.repr, none)
  | some a =>
    match ← t.nodeAt a with
    -- The addresses of a tree's own graph lead to nodes, so this is for foreign graphs only.
    | none => return ("ARG" ++ i.repr, none)
    | some id =>
      let n ← t.node id
      return (entityName n.label a, ← t.nounNameAt? a)

/-- The arguments for edges whose first is the `i`-th. -/
def argumentsFrom (t : Tree) (i : Nat) : List RoleEdge → Checked (List (String × Option String))
  | [] => return []
  | e :: es => do
    let a ← t.argument i e
    return a :: (← t.argumentsFrom (i + 1) es)

/-- The arguments of a predicate: its numbered edges in the order of the graph. -/
def argumentsOf (t : Tree) (g : RoleGraph) (predicate : String) :
    Checked (List (String × Option String)) :=
  t.argumentsFrom 0 ((g.edgesOf predicate).filter (·.isNumbered))

/-- The atoms for a predicate with given arguments: one for each named entity, and its own. -/
def predicateAtoms (predicate : String) (args : List (String × Option String)) : List Atom :=
  args.filterMap (fun a => a.2.map fun name => ⟨name, [a.1]⟩) ++ [⟨predicate, args.map (·.1)⟩]

/-- The entities and atoms of a derivation. -/
def formula (t : Tree) : Checked Formula := do
  let g ← t.roleGraph
  let args ← g.predicates.elems.mapM fun p => return (p, ← t.argumentsOf g p)
  return {
    entities := .ofList (args.flatMap fun a => a.2.map (·.1))
    atoms := .ofList (args.flatMap fun a => predicateAtoms a.1 a.2)
  }

end Tree

end SpineGrammar
