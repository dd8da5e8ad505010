import SpineGrammar.Sorted.Set
import SpineGrammar.Tree.Forest

/-!
# Predicate-argument graphs

A predicate declared at a node governs the node's own rules and everything below it, down to where
another predicate is declared. The role of a node is an edge from the predicate that governs it
from above to its address; the role of an open rule is an edge to no address yet.
-/

namespace SpineGrammar

/-- One filler of a role. Without an argument the role is still open; without a predicate nothing
    governs it. -/
structure RoleEdge where
  role : String
  argument : Option Address
  predicate : Option String
  deriving DecidableEq, Repr

namespace RoleEdge

/-- Edges are ordered by role, then argument, then predicate; what is absent comes first. -/
def order : RoleEdge → RoleEdge → Ordering :=
  compareLex (compareOn RoleEdge.role)
    (compareLex (compareOn RoleEdge.argument) (compareOn RoleEdge.predicate))

instance : Ord RoleEdge := ⟨order⟩

instance : Std.TransOrd RoleEdge :=
  inferInstanceAs (Std.TransCmp (compareLex (compareOn RoleEdge.role)
    (compareLex (compareOn RoleEdge.argument) (compareOn RoleEdge.predicate))))

instance : Std.LawfulEqOrd RoleEdge where
  compare_self := Std.ReflCmp.compare_self
  eq_of_compare := by
    intro a b h
    have h' : order a b = .eq := h
    simp only [order, compareLex, compareOn, Ordering.then_eq_eq] at h'
    obtain ⟨h1, h2, h3⟩ := h'
    cases a
    cases b
    simp_all

/-- Whether the role is a numbered one. -/
def isNumbered (e : RoleEdge) : Bool := isNumberedRole e.role

/-- One line of text: `want -ARG0-> (0)`, with `?` for no predicate and `_` for no argument. -/
def text (e : RoleEdge) : String :=
  let argument := match e.argument with
    | some a => a.text
    | none => "_"
  e.predicate.getD "?" ++ " -" ++ e.role ++ "-> " ++ argument

end RoleEdge

/-- Predicates and the role edges between them and their arguments. -/
structure RoleGraph where
  predicates : SortedSet String
  edges : SortedSet RoleEdge
  deriving DecidableEq

namespace RoleGraph

/-- The predicate that governs what is below a node, where `above` governs the node itself. -/
def governing (n : Node) (above : Option String) : Option String := n.predicate.or above

/-- The edges that one node gives: its own role, and those of its rules. -/
def nodeEdges (n : Node) (address : Address) (above : Option String) : List RoleEdge :=
  (n.role.map fun role => RoleEdge.mk role (some address) above).toList
    ++ n.rules.filterMap fun r => r.role.map fun role => ⟨role, none, governing n above⟩

/-- The edges of a forest that starts at child `i` of the node at `parent`, all under the predicate
    `above`. -/
def forestEdges (above : Option String) (parent : Address) (i : Nat) : Forest → List RoleEdge
  | .nil => []
  | .leaf _ rest => forestEdges above parent (i + 1) rest
  | .node _ n below rest =>
    nodeEdges n (parent.child i) above ++ forestEdges (governing n above) (parent.child i) 0 below
      ++ forestEdges above parent (i + 1) rest

/-- The edges of a branch. -/
def branchEdges (b : Branch) : List RoleEdge :=
  nodeEdges b.data [] none ++ forestEdges (governing b.data none) [] 0 b.below

/-- The graph of a branch. -/
def ofBranch (b : Branch) : RoleGraph where
  predicates := .ofList (b.depthFirst.filterMap (·.data.predicate))
  edges := .ofList (branchEdges b)

/-- The edges that a predicate governs. -/
def edgesOf (g : RoleGraph) (predicate : String) : List RoleEdge :=
  g.edges.elems.filter (·.predicate = some predicate)

end RoleGraph

/-- The predicate-argument graph of a tree. -/
def Tree.roleGraph (t : Tree) : Checked RoleGraph := return .ofBranch (← t.unfold)

end SpineGrammar
