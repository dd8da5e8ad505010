import SpineGrammar.Rule

/-!
# Trees as node tables

A tree is a table of nodes that name their children by position, together with the position of the
root. Copying a tree keeps every id, and grafting another tree appends its whole table with all ids
shifted, so an id of the host names the same node before and after. A table read from data may name
nodes that it does not have; looking such a node up is a fault.
-/

namespace SpineGrammar

/-- What stands at one place of a child list: another node, or a word. -/
inductive Child where
  | node (id : Nat)
  | leaf (word : String)
  deriving DecidableEq, Repr

/-- The id of a node child. -/
def Child.id? : Child → Option Nat
  | .node id => some id
  | .leaf _ => none

/-- What a node says of itself: its label, its open rules and its annotations. -/
structure Features where
  label : String
  /-- The rules that no tree has been inserted for yet. -/
  rules : List Rule
  /-- Whether the node is the foot of an adjunction spine. -/
  isFoot : Bool
  /-- Whether the node is the root of a tree that was inserted here. -/
  attached : Bool
  /-- The side of the host's spine on which an inserted tree stands. -/
  attachedSlot : Option Slot
  predicate : Option String
  role : Option String
  treeType : Option String
  rolesetId : Option String
  argCount : Option Nat
  treeId : Option Nat
  /-- How often this tree was seen with its word. -/
  wordCount : Nat
  /-- How often this tree was seen with any word. -/
  treeCount : Nat
  deriving DecidableEq

/-- A node of a table: its features and its children. -/
structure Node extends Features where
  children : List Child
  deriving DecidableEq

namespace Node

/-- A label without the final `^` that marks a foot, and whether it had one. -/
def splitFoot (label : String) : String × Bool :=
  match label.toList.reverse with
  | '^' :: rest => (String.ofList rest.reverse, true)
  | _ => (label, false)

/-- A childless node with a spine label; a final `^` marks a foot. -/
def ofLabel (label : String) : Node where
  label := (splitFoot label).1
  children := []
  rules := []
  isFoot := (splitFoot label).2
  attached := false
  attachedSlot := none
  predicate := none
  role := none
  treeType := none
  rolesetId := none
  argCount := none
  treeId := none
  wordCount := 1
  treeCount := 1

/-- Adds a rule, unless an equal one is there. -/
def pushRule (n : Node) (r : Rule) : Node :=
  if r ∈ n.rules then n else { n with rules := n.rules ++ [r] }

/-- Removes a rule. -/
def consumeRule (n : Node) (r : Rule) : Node :=
  { n with rules := n.rules.filter (· ≠ r) }

/-- Adds a last child. -/
def pushChild (n : Node) (c : Child) : Node :=
  { n with children := n.children ++ [c] }

/-- Puts a child before the one at position `i`. -/
def insertChild (n : Node) (i : Nat) (c : Child) : Node :=
  { n with children := n.children.insertIdx i c }

end Node

/-- A table of nodes and the id of the root. -/
structure Tree where
  nodes : Array Node
  root : Nat
  deriving DecidableEq

namespace Tree

/-! ## Reading and changing single nodes -/

/-- The node with a given id. -/
def node (t : Tree) (id : Nat) : Checked Node :=
  match t.nodes[id]? with
  | some n => .ok n
  | none => .error (.missingNode id)

/-- The root. -/
def rootNode (t : Tree) : Checked Node := t.node t.root

/-- The label of the root. -/
def label (t : Tree) : Checked String := do
  return (← t.rootNode).label

/-- Changes the node with a given id. -/
def update (t : Tree) (id : Nat) (f : Node → Node) : Checked Tree :=
  if id < t.nodes.size then .ok { t with nodes := t.nodes.modify id f }
  else .error (.missingNode id)

/-- Adds a node to the table, below no other; its id is the old size of the table. -/
def append (t : Tree) (n : Node) : Tree :=
  { t with nodes := t.nodes.push n }

theorem node_eq_ok_iff {t : Tree} {id : Nat} {n : Node} :
    t.node id = .ok n ↔ t.nodes[id]? = some n := by
  unfold node
  split <;> grind

theorem update_eq_ok_iff {t t' : Tree} {id : Nat} {f : Node → Node} :
    t.update id f = .ok t' ↔
      id < t.nodes.size ∧ t' = { t with nodes := t.nodes.modify id f } := by
  unfold update
  split <;> grind

theorem size_of_update {t t' : Tree} {id : Nat} {f : Node → Node} (h : t.update id f = .ok t') :
    t'.nodes.size = t.nodes.size := by
  obtain ⟨_, rfl⟩ := update_eq_ok_iff.1 h
  simp

theorem node_of_update_self {t t' : Tree} {id : Nat} {f : Node → Node}
    (h : t.update id f = .ok t') : t'.node id = (t.node id).map f := by
  obtain ⟨hid, rfl⟩ := update_eq_ok_iff.1 h
  have hget : (t.nodes.modify id f)[id]? = (t.nodes[id]?).map f := by
    rw [Array.getElem?_modify]
    simp
  simp only [node, hget]
  cases t.nodes[id]? <;> rfl

theorem node_of_update_of_ne {t t' : Tree} {id other : Nat} {f : Node → Node}
    (h : t.update id f = .ok t') (hne : other ≠ id) : t'.node other = t.node other := by
  obtain ⟨_, rfl⟩ := update_eq_ok_iff.1 h
  have hget : (t.nodes.modify id f)[other]? = t.nodes[other]? := by
    rw [Array.getElem?_modify]
    simp [Ne.symm hne]
  simp only [node, hget]

/-! ## Building -/

/-- A tree of one node. -/
def single (label : String) : Tree := ⟨#[Node.ofLabel label], 0⟩

/-- The nodes of a chain whose first node has the id `id`: each has the next as its only child, and
    the last has `word` as its only child if there is one. -/
def chain (id : Nat) (word : Option String) : List String → List Node
  | [] => []
  | [label] => [{ Node.ofLabel label with children := (word.map Child.leaf).toList }]
  | label :: rest =>
    { Node.ofLabel label with children := [.node (id + 1)] } :: chain (id + 1) word rest

/-- The spine with the given labels, root first, and a word at its end if there is one. Without
    labels it is a single node whose label is empty. -/
def ofSpine (labels : List String) (word : Option String) : Tree :=
  match labels with
  | [] => ⟨(chain 0 word [""]).toArray, 0⟩
  | label :: rest => ⟨(chain 0 word (label :: rest)).toArray, 0⟩

/-- Adds a new node as the last child of `parent`; its id is the old size of the table. -/
def pushNode (t : Tree) (parent : Nat) (n : Node) : Checked Tree :=
  (t.append n).update parent (·.pushChild (.node t.nodes.size))

/-- Adds a word as the last child of `parent`. -/
def pushLeaf (t : Tree) (parent : Nat) (word : String) : Checked Tree :=
  t.update parent (·.pushChild (.leaf word))

end Tree

/-! ## Grafting -/

/-- A child whose id, if it has one, is raised by `offset`. -/
def Child.shift (offset : Nat) : Child → Child
  | .node id => .node (id + offset)
  | .leaf word => .leaf word

/-- Whether an id in a table of `size` nodes can be raised by `offset`. An id that names a node
    always can, because no two tables together have as many nodes as `indexBound` says; any other
    has to stay below the bound. -/
def idFits (size offset id : Nat) : Bool := id < size || id + offset < indexBound

/-- Whether a child's id, if it has one, can be raised by `offset`. -/
def Child.fits (size offset : Nat) : Child → Bool
  | .node id => idFits size offset id
  | .leaf _ => true

/-- A node whose child ids are raised by `offset`. -/
def Node.shift (offset : Nat) (n : Node) : Node :=
  { n with children := n.children.map (Child.shift offset) }

/-- Whether the child ids of a node can be raised by `offset`. -/
def Node.fits (size offset : Nat) (n : Node) : Bool := n.children.all (Child.fits size offset)

namespace Tree

/-- The table of `host` followed by copies of nodes whose ids are shifted past it. -/
def extend (host : Tree) (nodes : Array Node) : Tree :=
  { host with nodes := host.nodes ++ nodes.map (Node.shift host.nodes.size) }

/-- Whether all ids of a tree can be raised by `offset`. -/
def fits (offset : Nat) (t : Tree) : Bool :=
  t.nodes.all (Node.fits t.nodes.size offset) && idFits t.nodes.size offset t.root

/-- Copies the whole table of `other` behind that of `host`, below no other node, and gives the id
    of the copied root. -/
def graft (host other : Tree) : Checked (Tree × Nat) :=
  if other.fits host.nodes.size then
    .ok (host.extend other.nodes, other.root + host.nodes.size)
  else .error .idOverflow

theorem node_extend_of_lt (t : Tree) (nodes : Array Node) {id : Nat} (h : id < t.nodes.size) :
    (t.extend nodes).node id = t.node id := by
  simp [node, extend, Array.getElem?_append, h]

theorem node_extend_add (t : Tree) (nodes : Array Node) (i : Nat) :
    (t.extend nodes).node (i + t.nodes.size) =
      match nodes[i]? with
      | some n => .ok (n.shift t.nodes.size)
      | none => .error (.missingNode (i + t.nodes.size)) := by
  have hget : (t.extend nodes).nodes[i + t.nodes.size]? =
      (nodes[i]?).map (Node.shift t.nodes.size) := by
    simp only [extend, Array.getElem?_append]
    rw [if_neg (by omega)]
    simp
  unfold node
  rw [hget]
  cases nodes[i]? <;> rfl

/-! ## Walking down -/

/-- Follows an address from a node. An index past the end, or one that names a word, leads to no
    node. -/
def resolve (t : Tree) (start : Nat) : Address → Checked (Option Nat)
  | [] => .ok (some start)
  | i :: rest => do
    let n ← t.node start
    match n.children[i]? with
    | some (.node id) => t.resolve id rest
    -- A word has no address, and neither has a place past the end.
    | _ => return none

theorem resolve_cons_eq_some_iff {t : Tree} {start goal i : Nat} {rest : Address} :
    t.resolve start (i :: rest) = .ok (some goal) ↔
      ∃ n id, t.node start = .ok n ∧ n.children[i]? = some (.node id) ∧
        t.resolve id rest = .ok (some goal) := by
  rw [resolve]
  cases t.node start with
  | error e => simp [bind, Except.bind]
  | ok n =>
    cases hchild : n.children[i]? with
    | none => simp [bind, Except.bind, hchild, pure, Except.pure]
    | some c => cases c <;> simp [bind, Except.bind, hchild, pure, Except.pure]

theorem resolve_append_of_eq_some {t : Tree} {start middle : Nat} {a : Address}
    (h : t.resolve start a = .ok (some middle)) (b : Address) :
    t.resolve start (a ++ b) = t.resolve middle b := by
  induction a generalizing start with
  | nil =>
    obtain rfl : start = middle := by simpa [resolve] using h
    rfl
  | cons i a ih =>
    obtain ⟨n, id, hnode, hchild, hrest⟩ := resolve_cons_eq_some_iff.1 h
    rw [List.cons_append, resolve, hnode]
    simp only [bind, Except.bind, hchild]
    exact ih hrest

/-- The node at an address from the root. -/
def nodeAt (t : Tree) (a : Address) : Checked (Option Nat) := t.resolve t.root a

end Tree

end SpineGrammar
