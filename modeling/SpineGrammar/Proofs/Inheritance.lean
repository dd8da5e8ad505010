import Mathlib.Data.List.Induction
import SpineGrammar.Proofs.SoundTables
import SpineGrammar.Semantics.Graph

/-!
# Which predicate governs a node

The role graph hands predicates down from node to node. Told by addresses, what governs a node from
above is declared by the nearest node above it that declares a predicate, and what governs its rules
by the nearest of the node itself and the nodes above it. The edges of the graph are those of the
nodes that stand somewhere, each under the predicate that is nearest to it; so every predicate of an
edge is declared, and every address of an edge leads to a node.
-/

namespace SpineGrammar

namespace Tree

/-! ## Nearest predicates -/

/-- `t.Stands a id n`: the address `a` leads to the node `n`, which has the id `id`. -/
structure Stands (t : Tree) (a : Address) (id : Nat) (n : Node) : Prop where
  nodeAt : t.nodeAt a = .ok (some id)
  node : t.node id = .ok n

/-- `t.Declares a p`: the node at the address `a` declares the predicate `p`. -/
def Declares (t : Tree) (a : Address) (p : String) : Prop :=
  ∃ id n, t.Stands a id n ∧ n.predicate = some p

/-- `t.Nearest on p`: of the nodes at the addresses `on`, the lowest one that declares a predicate
    declares `p`, and all others that declare one lie above it; if `p` is `none`, none of them
    declares one. -/
def Nearest (t : Tree) (on : Address → Prop) : Option String → Prop
  | some p => ∃ a, on a ∧ t.Declares a p ∧ ∀ a' q, on a' → t.Declares a' q → a' <+: a
  | none => ∀ a q, on a → ¬ t.Declares a q

/-- `t.Governs a p`: of the node at `a` and the nodes above it, the nearest that declares a
    predicate declares `p`. -/
def Governs (t : Tree) (a : Address) (p : Option String) : Prop := t.Nearest (· <+: a) p

/-- `t.GovernsAbove a p`: of the nodes above the node at `a`, the nearest that declares a predicate
    declares `p`. -/
def GovernsAbove (t : Tree) (a : Address) (p : Option String) : Prop :=
  t.Nearest (fun a' => a' <+: a ∧ a' ≠ a) p

variable {t : Tree} {a : Address} {id : Nat} {n : Node} {p q : Option String}

theorem Stands.functional {id' : Nat} {n' : Node} (h : t.Stands a id n) (h' : t.Stands a id' n') :
    id = id' ∧ n = n' := by
  have hid : id = id' := by simpa using h.nodeAt.symm.trans h'.nodeAt
  subst hid
  exact ⟨rfl, Except.ok.inj (h.node.symm.trans h'.node)⟩

theorem Stands.reaches (h : t.Stands a id n) : t.Reaches id := ⟨a, h.nodeAt⟩

theorem IsRootedTree.exists_stands (h : t.IsRootedTree) (ha : t.nodeAt a = .ok (some id)) :
    ∃ n, t.Stands a id n := by
  obtain ⟨n, _, hn⟩ := h.exists_node_of_reaches ⟨a, ha⟩
  exact ⟨n, ha, hn⟩

theorem Declares.functional {p p' : String} (h : t.Declares a p) (h' : t.Declares a p') :
    p = p' := by
  obtain ⟨id, n, hn, hp⟩ := h
  obtain ⟨id', n', hn', hp'⟩ := h'
  obtain ⟨_, rfl⟩ := hn.functional hn'
  exact Option.some.inj (hp.symm.trans hp')

/-- Of the nodes on a path at most one predicate is the nearest. -/
theorem Nearest.functional {on : Address → Prop} (h : t.Nearest on p) (h' : t.Nearest on q) :
    p = q := by
  cases p with
  | none => cases q with
    | none => rfl
    | some q =>
      obtain ⟨a, ha, hq, _⟩ := h'
      exact absurd hq (h a q ha)
  | some p =>
    obtain ⟨a, ha, hp, hlowest⟩ := h
    cases q with
    | none => exact absurd hp (h' a p ha)
    | some q =>
      -- Each of the two declaring nodes lies above the other, so they are one.
      obtain ⟨a', ha', hq, hlowest'⟩ := h'
      have hle := hlowest a' q ha' hq
      have hle' := hlowest' a p ha hp
      obtain rfl : a = a' := hle'.eq_of_length_le hle.length_le
      rw [hp.functional hq]

theorem nearest_congr {on on' : Address → Prop} (h : ∀ a, on a ↔ on' a) :
    t.Nearest on p ↔ t.Nearest on' p := by
  obtain rfl : on = on' := funext fun a => propext (h a)
  exact Iff.rfl

/-- Nothing lies above the root. -/
theorem governsAbove_nil : t.GovernsAbove [] none := by
  intro a q ha
  exact absurd (List.prefix_nil.1 ha.1) ha.2

/-- What governs a child from above is what governs its parent. -/
theorem governsAbove_child {i : Nat} : t.GovernsAbove (a.child i) p ↔ t.Governs a p := by
  apply nearest_congr
  intro a'
  rw [Address.child, List.prefix_concat_iff]
  constructor
  · intro hproper
    obtain ⟨heq | hprefix, hne⟩ := hproper
    · exact absurd heq hne
    · exact hprefix
  · intro hprefix
    refine ⟨.inr hprefix, ?_⟩
    intro heq
    have hlength := hprefix.length_le
    rw [heq, List.length_append, List.length_singleton] at hlength
    omega

/-- A node without a predicate is governed as from above. -/
theorem GovernsAbove.governs_of_not_declares (h : t.GovernsAbove a p)
    (hnone : ∀ q, ¬ t.Declares a q) : t.Governs a p := by
  have habove : ∀ a' q, a' <+: a → t.Declares a' q → a' <+: a ∧ a' ≠ a := by
    intro a' q ha' hq
    refine ⟨ha', ?_⟩
    intro heq
    exact hnone q (heq ▸ hq)
  cases p with
  | none =>
    intro a' q ha' hq
    exact h a' q (habove a' q ha' hq) hq
  | some p =>
    obtain ⟨low, hlow, hp, hlowest⟩ := h
    refine ⟨low, hlow.1, hp, ?_⟩
    intro a' q ha' hq
    exact hlowest a' q (habove a' q ha' hq) hq

/-- The step down: a node's own predicate comes before the one from above. -/
theorem GovernsAbove.governs (h : t.GovernsAbove a p) (hn : t.Stands a id n) :
    t.Governs a (RoleGraph.governing n p) := by
  cases hpredicate : n.predicate with
  | some q =>
    rw [RoleGraph.governing, hpredicate, Option.some_or]
    exact ⟨a, List.prefix_rfl, ⟨id, n, hn, hpredicate⟩, fun a' _ ha' _ => ha'⟩
  | none =>
    rw [RoleGraph.governing, hpredicate, Option.none_or]
    apply h.governs_of_not_declares
    intro q hq
    obtain ⟨id', n', hn', hq⟩ := hq
    obtain ⟨_, rfl⟩ := hn.functional hn'
    rw [hpredicate] at hq
    cases hq

theorem exists_governsAbove (t : Tree) (a : Address) : ∃ p, t.GovernsAbove a p := by
  induction a using List.reverseRecOn with
  | nil => exact ⟨none, governsAbove_nil⟩
  | append_singleton a i ih =>
    obtain ⟨p, hp⟩ := ih
    by_cases hstands : ∃ id n, t.Stands a id n
    · obtain ⟨id, n, hn⟩ := hstands
      exact ⟨_, governsAbove_child.2 (hp.governs hn)⟩
    · refine ⟨p, governsAbove_child.2 (hp.governs_of_not_declares ?_)⟩
      intro q hq
      obtain ⟨id, n, hn, _⟩ := hq
      exact hstands ⟨id, n, hn⟩

theorem exists_governs (t : Tree) (a : Address) : ∃ p, t.Governs a p := by
  obtain ⟨p, hp⟩ := t.exists_governsAbove (a.child 0)
  exact ⟨p, governsAbove_child.1 hp⟩

/-- What governs a node that stands somewhere comes from above or from the node. -/
theorem Governs.exists_governsAbove (h : t.Governs a p) (hn : t.Stands a id n) :
    ∃ q, t.GovernsAbove a q ∧ p = RoleGraph.governing n q := by
  obtain ⟨q, hq⟩ := t.exists_governsAbove a
  exact ⟨q, hq, h.functional (hq.governs hn)⟩

/-- A predicate that governs a node is declared somewhere. -/
theorem Nearest.exists_declares {on : Address → Prop} {p : String} (h : t.Nearest on (some p)) :
    ∃ a, t.Declares a p := by
  obtain ⟨a, _, hp, _⟩ := h
  exact ⟨a, hp⟩

end Tree

/-! ## Edges of a branch -/

namespace RoleGraph

theorem mem_nodeEdges {n : Node} {a : Address} {above : Option String} {e : RoleEdge} :
    e ∈ nodeEdges n a above ↔
      (∃ role, n.role = some role ∧ e = ⟨role, some a, above⟩) ∨
      ∃ r ∈ n.rules, ∃ role, r.role = some role ∧ e = ⟨role, none, governing n above⟩ := by
  rw [nodeEdges, List.mem_append]
  simp only [Option.mem_toList, Option.map_eq_some_iff, List.mem_filterMap, eq_comm (a := e)]

/-- The edges that the node at a place gives under the predicate that governs it from above. -/
def PlaceEdge (t : Tree) (e : RoleEdge) (place : Place) : Prop :=
  ∃ above, t.GovernsAbove place.address above ∧ e ∈ nodeEdges place.data place.address above

theorem placeEdge_iff {t : Tree} {above : Option String} {place : Place}
    (h : t.GovernsAbove place.address above) (e : RoleEdge) :
    PlaceEdge t e place ↔ e ∈ nodeEdges place.data place.address above := by
  constructor
  · intro hedge
    obtain ⟨above', habove', he⟩ := hedge
    rw [h.functional habove']
    exact he
  · intro he
    exact ⟨above, h, he⟩

/-- The invariant of the way down: below a node at `parent` that is governed by `above`, the edges
    are those of the places, each under its nearest predicate. -/
theorem mem_forestEdges {t : Tree} {cs : List Child} {f : Forest} (h : t.Unfolds cs f)
    {parent : Address} {i : Nat} {above : Option String} (habove : t.Governs parent above)
    (hplaces : ∀ j id, cs[j]? = some (.node id) →
      t.nodeAt (parent.child (i + j)) = .ok (some id)) {e : RoleEdge} :
    e ∈ forestEdges above parent i f ↔ ∃ p ∈ f.depthFirst parent i, PlaceEdge t e p := by
  induction h generalizing parent i above with
  | nil => simp [forestEdges, Forest.depthFirst]
  | leaf _ ih =>
    apply ih habove
    intro j id hchild
    rw [Nat.add_assoc, Nat.add_comm 1 j]
    exact hplaces (j + 1) id hchild
  | @node id n cs below rest hn _ _ ihbelow ihrest =>
    have hstands : t.Stands (parent.child i) id n := ⟨hplaces 0 id rfl, hn⟩
    have hinherits : t.GovernsAbove (parent.child i) above := Tree.governsAbove_child.2 habove
    -- The node's children are found one step further down from it.
    have hbelow : ∀ j child, n.children[j]? = some (.node child) →
        t.nodeAt ((parent.child i).child (0 + j)) = .ok (some child) := by
      intro j child hchild
      rw [Nat.zero_add, Address.child, Tree.nodeAt, Tree.resolve_append_of_eq_some hstands.nodeAt]
      exact Tree.resolve_cons_eq_some_iff.2 ⟨n, child, hn, hchild, rfl⟩
    have hrest : ∀ j id, cs[j]? = some (.node id) →
        t.nodeAt (parent.child (i + 1 + j)) = .ok (some id) := by
      intro j id hchild
      rw [Nat.add_assoc, Nat.add_comm 1 j]
      exact hplaces (j + 1) id hchild
    have hhere : PlaceEdge t e ⟨id, parent.child i, n⟩ ↔ e ∈ nodeEdges n (parent.child i) above :=
      placeEdge_iff hinherits e
    rw [forestEdges, Forest.depthFirst, List.append_assoc, List.mem_append, List.mem_append,
      ihbelow (hinherits.governs hstands) hbelow, ihrest habove hrest, ← hhere]
    simp only [List.mem_cons, List.mem_append, or_and_right, exists_or, exists_eq_left]

theorem mem_branchEdges {t : Tree} {b : Branch} (h : t.Denotes b) {e : RoleEdge} :
    e ∈ branchEdges b ↔ ∃ p ∈ b.depthFirst, PlaceEdge t e p := by
  have hroot : t.Stands [] b.id b.data := ⟨by rw [h.root]; rfl, h.node⟩
  have hchildren : ∀ j id, b.data.children[j]? = some (.node id) →
      t.nodeAt (Address.child [] (0 + j)) = .ok (some id) := by
    intro j id hchild
    rw [Nat.zero_add, Tree.nodeAt, ← h.root]
    exact Tree.resolve_cons_eq_some_iff.2 ⟨b.data, id, h.node, hchild, rfl⟩
  have hhere : PlaceEdge t e ⟨b.id, [], b.data⟩ ↔ e ∈ nodeEdges b.data [] none :=
    placeEdge_iff Tree.governsAbove_nil e
  rw [branchEdges, Branch.depthFirst, List.mem_append,
    mem_forestEdges h.below (Tree.governsAbove_nil.governs hroot) hchildren, ← hhere]
  simp only [List.mem_cons, exists_eq_or_imp]

end RoleGraph

/-! ## The graph of a tree -/

namespace Tree

variable {t : Tree} {a : Address} {g : RoleGraph}

/-- The places of a branch are those at which nodes stand. -/
theorem Denotes.mem_depthFirst {b : Branch} (h : t.Denotes b) {place : Place} :
    place ∈ b.depthFirst ↔ t.Stands place.address place.id place.data := by
  rw [Branch.mem_depthFirst]
  constructor
  · intro hplace
    obtain ⟨a, s, hs, rfl⟩ := hplace
    exact ⟨by rw [nodeAt, ← h.root, h.resolve, hs]; rfl, (h.at? hs).node⟩
  · intro hstands
    have hid := hstands.nodeAt
    rw [nodeAt, ← h.root] at hid
    obtain ⟨s, hs, heq⟩ := h.resolve_eq_some_iff.1 hid
    have hdata : s.data = place.data :=
      Except.ok.inj ((h.at? hs).node.symm.trans (heq ▸ hstands.node))
    obtain ⟨id, address, data⟩ := place
    obtain rfl : s.id = id := heq
    obtain rfl : s.data = data := hdata
    exact ⟨address, s, hs, rfl⟩

namespace IsRootedTree

theorem exists_roleGraph (h : t.IsRootedTree) : ∃ g, t.roleGraph = .ok g := by
  obtain ⟨b, hb, _⟩ := h.exists_denotes
  exact ⟨.ofBranch b, by rw [roleGraph, hb]; rfl⟩

theorem exists_of_roleGraph (h : t.IsRootedTree) (hg : t.roleGraph = .ok g) :
    ∃ b, t.Denotes b ∧ g = .ofBranch b := by
  obtain ⟨b, hb, hdenotes⟩ := h.exists_denotes
  rw [roleGraph, hb] at hg
  exact ⟨b, hdenotes, (Except.ok.inj hg).symm⟩

/-- The predicates of the graph are those that nodes declare. -/
theorem mem_predicates (h : t.IsRootedTree) (hg : t.roleGraph = .ok g) {p : String} :
    p ∈ g.predicates ↔ ∃ a, t.Declares a p := by
  obtain ⟨b, hb, rfl⟩ := h.exists_of_roleGraph hg
  simp only [RoleGraph.ofBranch, SortedSet.mem_ofList, List.mem_filterMap, hb.mem_depthFirst]
  constructor
  · intro hmem
    obtain ⟨place, hplace, hp⟩ := hmem
    exact ⟨place.address, place.id, place.data, hplace, hp⟩
  · intro hdeclares
    obtain ⟨a, id, n, hn, hp⟩ := hdeclares
    exact ⟨⟨id, a, n⟩, hn, hp⟩

/-- The edges of the graph are those of the nodes, each under its nearest predicate. -/
theorem mem_edges (h : t.IsRootedTree) (hg : t.roleGraph = .ok g) {e : RoleEdge} :
    e ∈ g.edges ↔ ∃ a id n above, t.Stands a id n ∧ t.GovernsAbove a above ∧
      e ∈ RoleGraph.nodeEdges n a above := by
  obtain ⟨b, hb, rfl⟩ := h.exists_of_roleGraph hg
  rw [RoleGraph.ofBranch, SortedSet.mem_ofList, RoleGraph.mem_branchEdges hb]
  simp only [hb.mem_depthFirst]
  constructor
  · intro hmem
    obtain ⟨place, hplace, above, habove, he⟩ := hmem
    exact ⟨place.address, place.id, place.data, above, hplace, habove, he⟩
  · intro hedge
    obtain ⟨a, id, n, above, hn, habove, he⟩ := hedge
    exact ⟨⟨id, a, n⟩, hn, above, habove, he⟩

theorem mem_edges_filled (h : t.IsRootedTree) (hg : t.roleGraph = .ok g) {role : String}
    {p : Option String} : (⟨role, some a, p⟩ : RoleEdge) ∈ g.edges ↔
      (∃ id n, t.Stands a id n ∧ n.role = some role) ∧ t.GovernsAbove a p := by
  rw [h.mem_edges hg]
  simp only [RoleGraph.mem_nodeEdges, RoleEdge.mk.injEq]
  constructor
  · intro hedge
    obtain ⟨a', id, n, above, hn, habove, hown | hrule⟩ := hedge
    · obtain ⟨_, hrole, rfl, ha, rfl⟩ := hown
      obtain rfl := Option.some.inj ha
      exact ⟨⟨id, n, hn, hrole⟩, habove⟩
    · -- The edge of a rule has no address.
      obtain ⟨_, _, _, _, _, hopen, _⟩ := hrule
      cases hopen
  · intro hfilled
    obtain ⟨⟨id, n, hn, hrole⟩, hp⟩ := hfilled
    exact ⟨a, id, n, p, hn, hp, .inl ⟨role, hrole, rfl, rfl, rfl⟩⟩

theorem mem_edges_open (h : t.IsRootedTree) (hg : t.roleGraph = .ok g) {role : String}
    {p : Option String} : (⟨role, none, p⟩ : RoleEdge) ∈ g.edges ↔
      ∃ a id n r, t.Stands a id n ∧ r ∈ n.rules ∧ r.role = some role ∧ t.Governs a p := by
  rw [h.mem_edges hg]
  simp only [RoleGraph.mem_nodeEdges, RoleEdge.mk.injEq]
  constructor
  · intro hedge
    obtain ⟨a, id, n, above, hn, habove, hown | hrule⟩ := hedge
    · -- The edge of a node's own role has an address.
      obtain ⟨_, _, _, hfilled, _⟩ := hown
      cases hfilled
    · obtain ⟨r, hr, _, hrole, rfl, _, rfl⟩ := hrule
      exact ⟨a, id, n, r, hn, hr, hrole, habove.governs hn⟩
  · intro hopen
    obtain ⟨a, id, n, r, hn, hr, hrole, hp⟩ := hopen
    obtain ⟨above, habove, rfl⟩ := hp.exists_governsAbove hn
    exact ⟨a, id, n, above, hn, habove, .inr ⟨r, hr, role, hrole, rfl, trivial, rfl⟩⟩

theorem mem_predicates_of_mem_edges (h : t.IsRootedTree) (hg : t.roleGraph = .ok g)
    {e : RoleEdge} (he : e ∈ g.edges) {p : String} (hp : e.predicate = some p) :
    p ∈ g.predicates := by
  rw [h.mem_predicates hg]
  obtain ⟨role, argument, predicate⟩ := e
  obtain rfl : predicate = some p := hp
  cases argument with
  | some a =>
    obtain ⟨_, hnearest⟩ := (h.mem_edges_filled hg).1 he
    exact hnearest.exists_declares
  | none =>
    obtain ⟨_, _, _, _, _, _, _, hnearest⟩ := (h.mem_edges_open hg).1 he
    exact hnearest.exists_declares

/-- Each address of an edge leads to a node of the tree. -/
theorem exists_stands_of_mem_edges (h : t.IsRootedTree) (hg : t.roleGraph = .ok g)
    {e : RoleEdge} (he : e ∈ g.edges) (ha : e.argument = some a) : ∃ id n, t.Stands a id n := by
  obtain ⟨role, argument, predicate⟩ := e
  obtain rfl : argument = some a := ha
  obtain ⟨⟨id, n, hn, _⟩, _⟩ := (h.mem_edges_filled hg).1 he
  exact ⟨id, n, hn⟩

end IsRootedTree

end Tree

/-! ## Inheritance -/

/-- **Inheritance**: a rooted tree has a role graph. Its predicates are those that nodes below the
    root declare. A filled edge has the role of the node at its address and the predicate of the
    nearest node above that node that declares one; an open edge has the role of a rule and the
    predicate of the nearest of the rule's owner and the nodes above it. So every predicate of an
    edge is one of the graph, and every address of an edge leads to a node. -/
theorem roleGraph_inherits_nearest {t : Tree} (ht : t.IsRootedTree) :
    ∃ g, t.roleGraph = .ok g ∧
      (∀ p, p ∈ g.predicates ↔
        ∃ id n, t.Reaches id ∧ t.node id = .ok n ∧ n.predicate = some p) ∧
      (∀ role a p, (⟨role, some a, p⟩ : RoleEdge) ∈ g.edges ↔
        (∃ id n, t.Stands a id n ∧ n.role = some role) ∧ t.GovernsAbove a p) ∧
      (∀ role p, (⟨role, none, p⟩ : RoleEdge) ∈ g.edges ↔
        ∃ a id n r, t.Stands a id n ∧ r ∈ n.rules ∧ r.role = some role ∧ t.Governs a p) ∧
      ∀ e ∈ g.edges, (∀ p, e.predicate = some p → p ∈ g.predicates) ∧
        ∀ a, e.argument = some a → ∃ id n, t.Stands a id n := by
  obtain ⟨g, hg⟩ := ht.exists_roleGraph
  refine ⟨g, hg, ?_, fun _ _ _ => ht.mem_edges_filled hg, fun _ _ => ht.mem_edges_open hg, ?_⟩
  · intro p
    rw [ht.mem_predicates hg]
    constructor
    · intro hdeclares
      obtain ⟨a, id, n, hn, hp⟩ := hdeclares
      exact ⟨id, n, hn.reaches, hn.node, hp⟩
    · intro hnode
      obtain ⟨id, n, ⟨a, ha⟩, hn, hp⟩ := hnode
      exact ⟨a, id, n, ⟨ha, hn⟩, hp⟩
  · intro e he
    exact ⟨fun p hp => ht.mem_predicates_of_mem_edges hg he hp,
      fun a ha => ht.exists_stands_of_mem_edges hg he ha⟩

/-- A clause within a clause, where the inner one waits for a place to go. One more node of the
    table hangs nowhere and names a child that there is not. -/
def Tree.nestedClause : Tree where
  nodes := #[{ Node.plain "S" [] [.node 1, .node 2] with predicate := some "want" },
    { Node.plain "NP" [] [.leaf "Kim"] with role := some "ARG0" },
    .plain "VP" [] [.leaf "wants", .node 3],
    { Node.plain "S" [{ nounRule [] .right with role := some "ARG4" }] [.leaf "go"] with
      predicate := some "go", role := some "ARG1" },
    .plain "X" [] [.node 9]]
  root := 0

theorem roleGraph_inherits_nearest_nestedClause :
    Tree.nestedClause.IsRootedTree ∧ ¬ Tree.nestedClause.IsTree ∧
    ∃ g, Tree.nestedClause.roleGraph = .ok g ∧ g.predicates.elems = ["go", "want"] ∧
      g.edges.elems = [⟨"ARG0", some [0], some "want"⟩, ⟨"ARG1", some [1, 1], some "want"⟩,
        ⟨"ARG4", none, some "go"⟩] ∧
      Tree.nestedClause.GovernsAbove [1, 1] (some "want") ∧
      ∃ a id n r, Tree.nestedClause.Stands a id n ∧ r ∈ n.rules ∧ r.role = some "ARG4" ∧
        Tree.nestedClause.Governs a (some "go") := by
  have htree : Tree.nestedClause.IsRootedTree := by decide +kernel
  have hdangling : ¬ Tree.nestedClause.IsTree := by decide +kernel
  have hgraph : ∃ g, Tree.nestedClause.roleGraph = .ok g ∧ g.predicates.elems = ["go", "want"] ∧
      g.edges.elems = [⟨"ARG0", some [0], some "want"⟩, ⟨"ARG1", some [1, 1], some "want"⟩,
        ⟨"ARG4", none, some "go"⟩] := by
    decide +kernel
  obtain ⟨g, hg, hpredicates, hedges⟩ := hgraph
  obtain ⟨g', hg', _, hfilled, hopen, _⟩ := roleGraph_inherits_nearest htree
  obtain rfl := Except.ok.inj (hg.symm.trans hg')
  have hgo : (⟨"ARG1", some [1, 1], some "want"⟩ : RoleEdge) ∈ g.edges := by
    show _ ∈ g.edges.elems
    simp [hedges]
  have hplace : (⟨"ARG4", none, some "go"⟩ : RoleEdge) ∈ g.edges := by
    show _ ∈ g.edges.elems
    simp [hedges]
  exact ⟨htree, hdangling, g, hg, hpredicates, hedges, ((hfilled _ _ _).1 hgo).2,
    (hopen _ _).1 hplace⟩

end SpineGrammar
