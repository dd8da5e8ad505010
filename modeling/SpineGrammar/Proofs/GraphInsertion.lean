import SpineGrammar.Proofs.Readdressing

/-!
# The role graph after an insertion

No predicate that governed a node of the host is lost, and what the candidate's own predicates do
not govern comes under the predicate that governs the place of the argument. So the role graph of a
result is put together from those of host and candidate: addresses move, an absent predicate of the
candidate is filled in, and the open edge of the served rule becomes the edge of the argument.
-/

namespace SpineGrammar

variable {d c x : Tree} {owner target i : Nat} {r : Rule} {place a : Address}
  {p q : Option String}

namespace Tree

theorem IsRootedTree.eq_root_iff {t : Tree} (h : t.IsRootedTree) {id : Nat} {n : Node}
    (hn : t.Stands a id n) : id = t.root ↔ a = [] := by
  constructor
  · intro hid
    have hroot : t.nodeAt [] = .ok (some id) := by rw [hid]; rfl
    exact h.path_unique a [] id hn.nodeAt hroot
  · intro ha
    have hid := hn.nodeAt
    rw [ha] at hid
    exact (Option.some.inj (Except.ok.inj hid)).symm

/-! ## Predicates after an insertion -/

namespace InsertsAt

theorem declares_host_iff (h : d.InsertsAt c x owner r target place i) {p : String} :
    x.Declares (place.makeRoom i a) p ↔ d.Declares a p := by
  constructor
  · intro hp
    obtain ⟨id, n', hn', hp⟩ := hp
    obtain ⟨n, hn, rfl⟩ := h.stands_host_iff.1 hn'
    exact ⟨id, n, hn, hp⟩
  · intro hp
    obtain ⟨id, n, hn, hp⟩ := hp
    exact ⟨id, _, h.stands_of_host hn, hp⟩

theorem declares_argument_iff (h : d.InsertsAt c x owner r target place i) {p : String} :
    x.Declares (place ++ i :: a) p ↔ c.Declares a p := by
  constructor
  · intro hp
    obtain ⟨id, n', hn', hp⟩ := hp
    obtain ⟨k, n, hn, _, rfl⟩ := h.stands_argument_iff.1 hn'
    rw [Node.predicate_copied] at hp
    exact ⟨k, n, hn, hp⟩
  · intro hp
    obtain ⟨k, n, hn, hp⟩ := hp
    exact ⟨_, _, h.stands_of_argument hn, by rw [Node.predicate_copied, hp]⟩

/-- What is declared in the result was declared in the host or in the candidate. -/
theorem declares_cases (h : d.InsertsAt c x owner r target place i) {a' : Address} {p : String}
    (hp : x.Declares a' p) : (∃ a, a' = place.makeRoom i a ∧ d.Declares a p) ∨
      ∃ a, a' = place ++ i :: a ∧ c.Declares a p := by
  obtain ⟨id, n', hn', _⟩ := id hp
  rcases h.stands_cases hn' with hhost | hargument
  · obtain ⟨a, n, _, rfl⟩ := hhost
    exact .inl ⟨a, rfl, h.declares_host_iff.1 hp⟩
  · obtain ⟨a, k, n, _, rfl⟩ := hargument
    exact .inr ⟨a, rfl, h.declares_argument_iff.1 hp⟩

/-- Among nodes of the host, moved where room was made, the nearest predicate stays the nearest. -/
theorem nearest_host (h : d.InsertsAt c x owner r target place i) {on on' : Address → Prop}
    (hon : ∀ a, on' (place.makeRoom i a) ↔ on a) (hnew : ∀ a, ¬ on' (place ++ i :: a))
    (hp : d.Nearest on p) : x.Nearest on' p := by
  cases p with
  | none =>
    intro a' q ha' hq
    -- A node that declares and counts is one of the host, since no new node counts.
    rcases h.declares_cases hq with ⟨a, rfl, hhost⟩ | ⟨a, rfl, _⟩
    · exact hp a q ((hon a).1 ha') hhost
    · exact hnew a ha'
  | some p =>
    obtain ⟨low, hlow, hdeclares, hlowest⟩ := hp
    refine ⟨place.makeRoom i low, (hon low).2 hlow, h.declares_host_iff.2 hdeclares, ?_⟩
    intro a' q ha' hq
    rcases h.declares_cases hq with ⟨a, rfl, hhost⟩ | ⟨a, rfl, _⟩
    · exact Address.makeRoom_prefix_iff.2 (hlowest a q ((hon a).1 ha') hhost)
    · exact absurd ha' (hnew a)

/-- What is nearest among nodes of the host does not change. -/
theorem nearest_host_iff (h : d.InsertsAt c x owner r target place i) {on on' : Address → Prop}
    (hon : ∀ a, on' (place.makeRoom i a) ↔ on a) (hnew : ∀ a, ¬ on' (place ++ i :: a))
    (hexists : ∃ q, d.Nearest on q) : x.Nearest on' p ↔ d.Nearest on p := by
  constructor
  · intro hp
    obtain ⟨q, hq⟩ := hexists
    rw [hp.functional (h.nearest_host hon hnew hq)]
    exact hq
  · exact h.nearest_host hon hnew

/-- Among nodes of the candidate and those above its place, the candidate's predicates come before
    the one that governs the place. -/
theorem nearest_argument (h : d.InsertsAt c x owner r target place i) {on on' : Address → Prop}
    (hon : ∀ a, on' (place ++ i :: a) ↔ on a)
    (habove : ∀ a, on' (place.makeRoom i a) ↔ a <+: place)
    (hq : c.Nearest on q) (hp : d.Governs place p) : x.Nearest on' (q.or p) := by
  cases q with
  | some q =>
    rw [Option.some_or]
    obtain ⟨low, hlow, hdeclares, hlowest⟩ := hq
    refine ⟨place ++ i :: low, (hon low).2 hlow, h.declares_argument_iff.2 hdeclares, ?_⟩
    intro a' q' ha' hq'
    rcases h.declares_cases hq' with ⟨a, rfl, _⟩ | ⟨a, rfl, hargument⟩
    · -- A node of the host that counts lies above the place, and so above the whole candidate.
      have ha : a <+: place := (habove a).1 ha'
      rw [Address.makeRoom_of_prefix ha]
      exact ha.trans (List.prefix_append place _)
    · -- Within the candidate the lowest one stays the lowest.
      have ha : a <+: low := hlowest a q' ((hon a).1 ha') hargument
      rw [List.prefix_append_right_inj, List.cons_prefix_cons]
      exact ⟨rfl, ha⟩
  | none =>
    -- The candidate declares nothing there, so the nodes at and above the place decide.
    rw [Option.none_or]
    cases p with
    | none =>
      intro a' q' ha' hq'
      rcases h.declares_cases hq' with ⟨a, rfl, hhost⟩ | ⟨a, rfl, hargument⟩
      · exact hp a q' ((habove a).1 ha') hhost
      · exact hq a q' ((hon a).1 ha') hargument
    | some p =>
      obtain ⟨low, hlow, hdeclares, hlowest⟩ := hp
      refine ⟨place.makeRoom i low, (habove low).2 hlow, h.declares_host_iff.2 hdeclares, ?_⟩
      intro a' q' ha' hq'
      rcases h.declares_cases hq' with ⟨a, rfl, hhost⟩ | ⟨a, rfl, hargument⟩
      · exact Address.makeRoom_prefix_iff.2 (hlowest a q' ((habove a).1 ha') hhost)
      · exact absurd hargument (hq a q' ((hon a).1 ha'))

theorem governs_host_iff (h : d.InsertsAt c x owner r target place i) :
    x.Governs (place.makeRoom i a) p ↔ d.Governs a p := by
  apply h.nearest_host_iff _ _ (d.exists_governs a)
  · intro a'
    exact Address.makeRoom_prefix_iff
  · intro a'
    exact Address.not_new_prefix_makeRoom

theorem governsAbove_host_iff (h : d.InsertsAt c x owner r target place i) :
    x.GovernsAbove (place.makeRoom i a) p ↔ d.GovernsAbove a p := by
  apply h.nearest_host_iff _ _ (d.exists_governsAbove a)
  · intro a'
    rw [Address.makeRoom_prefix_iff, ne_eq, Address.makeRoom_inj]
  · intro a' ha'
    exact Address.not_new_prefix_makeRoom ha'.1

theorem governs_argument (h : d.InsertsAt c x owner r target place i) (hq : c.Governs a q)
    (hp : d.Governs place p) : x.Governs (place ++ i :: a) (q.or p) := by
  apply h.nearest_argument _ _ hq hp
  · intro a'
    rw [List.prefix_append_right_inj, List.cons_prefix_cons]
    simp
  · intro a'
    exact Address.makeRoom_prefix_new_iff

theorem governsAbove_argument (h : d.InsertsAt c x owner r target place i)
    (hq : c.GovernsAbove a q) (hp : d.Governs place p) :
    x.GovernsAbove (place ++ i :: a) (q.or p) := by
  apply h.nearest_argument _ _ hq hp
  · intro a'
    rw [List.prefix_append_right_inj, List.cons_prefix_cons]
    simp
  · intro a'
    rw [Address.makeRoom_prefix_new_iff, and_iff_left Address.makeRoom_ne_new]

end InsertsAt

end Tree

/-! ## Edges after an insertion -/

/-- The edges of `d` with `c` inserted for the rule `r` of `owner`, before the `i`-th child of the
    node at `place`, which `p` governs; `gd` and `gc` are the graphs of `d` and `c`. -/
inductive RoleGraph.EdgeAfter (d : Tree) (gd gc : RoleGraph) (owner : Nat) (r : Rule)
    (place : Address) (i : Nat) (p : Option String) : RoleEdge → Prop
  /-- A filled edge of the host stays if its address does not step to a later child. -/
  | kept {role : String} {a : Address} {q : Option String} :
      (⟨role, some a, q⟩ : RoleEdge) ∈ gd.edges → (∀ j rest, a = place ++ j :: rest → j < i) →
      EdgeAfter d gd gc owner r place i p ⟨role, some a, q⟩
  /-- A filled edge of the host that does moves with that child. -/
  | moved {role : String} {j : Nat} {rest : Address} {q : Option String} :
      (⟨role, some (place ++ j :: rest), q⟩ : RoleEdge) ∈ gd.edges → i ≤ j →
      EdgeAfter d gd gc owner r place i p ⟨role, some (place ++ (j + 1) :: rest), q⟩
  /-- A filled edge of the candidate other than its root's comes below the place. -/
  | brought {role : String} {a : Address} {q : Option String} :
      (⟨role, some a, q⟩ : RoleEdge) ∈ gc.edges → a ≠ [] →
      EdgeAfter d gd gc owner r place i p ⟨role, some (place ++ i :: a), q.or p⟩
  /-- The argument fills the role of the served rule. -/
  | argument {role : String} : r.role = some role →
      EdgeAfter d gd gc owner r place i p ⟨role, some (place ++ [i]), p⟩
  /-- The other rules of the host still wait. -/
  | waiting {a : Address} {id : Nat} {n : Node} {r' : Rule} {role : String}
      {q : Option String} :
      d.Stands a id n → r' ∈ n.rules → (id, r') ≠ (owner, r) → r'.role = some role →
      d.Governs a q → EdgeAfter d gd gc owner r place i p ⟨role, none, q⟩
  /-- The rules of the candidate wait too. -/
  | awaited {role : String} {q : Option String} :
      (⟨role, none, q⟩ : RoleEdge) ∈ gc.edges →
      EdgeAfter d gd gc owner r place i p ⟨role, none, q.or p⟩

namespace Tree.InsertsAt

open RoleGraph

variable {gd gc gx : RoleGraph} {role : String}

/-- A filled edge of the host is there where room was made. -/
theorem edgeAfter_of_filled (he : (⟨role, some a, q⟩ : RoleEdge) ∈ gd.edges) :
    EdgeAfter d gd gc owner r place i p ⟨role, some (place.makeRoom i a), q⟩ := by
  rcases Address.makeRoom_cases place i a with ⟨hbefore, hstays⟩ | ⟨j, rest, rfl, hj, hmoves⟩
  · rw [hstays]
    exact .kept he hbefore
  · rw [hmoves]
    exact .moved he hj

theorem mem_edges_host (h : d.InsertsAt c x owner r target place i) (hgd : d.roleGraph = .ok gd)
    (hgx : x.roleGraph = .ok gx) (he : (⟨role, some a, q⟩ : RoleEdge) ∈ gd.edges) :
    (⟨role, some (place.makeRoom i a), q⟩ : RoleEdge) ∈ gx.edges := by
  obtain ⟨⟨id, n, hn, hrole⟩, hq⟩ := (h.host.isRootedTree.mem_edges_filled hgd).1 he
  rw [h.sound.isRootedTree.mem_edges_filled hgx]
  exact ⟨⟨id, _, h.stands_of_host hn, hrole⟩, h.governsAbove_host_iff.2 hq⟩

/-- Each filled edge of the result comes from one of the host or of the candidate, or is that of the
    argument. -/
theorem edgeAfter_of_mem_filled (h : d.InsertsAt c x owner r target place i)
    (hp : d.Governs place p) (hgd : d.roleGraph = .ok gd) (hgc : c.roleGraph = .ok gc)
    (hgx : x.roleGraph = .ok gx) (he : (⟨role, some a, q⟩ : RoleEdge) ∈ gx.edges) :
    EdgeAfter d gd gc owner r place i p ⟨role, some a, q⟩ := by
  have hhost := h.host.isRootedTree
  have hcandidate := h.candidate.isRootedTree
  obtain ⟨⟨id, n', hn', hrole⟩, hq⟩ := (h.sound.isRootedTree.mem_edges_filled hgx).1 he
  rcases h.stands_cases hn' with ⟨a, n, hn, rfl⟩ | ⟨a, k, n, hn, rfl⟩
  · -- A node of the host keeps its role and what governs it from above.
    obtain ⟨_, rfl⟩ := hn'.functional (h.stands_of_host hn)
    apply edgeAfter_of_filled
    rw [hhost.mem_edges_filled hgd]
    exact ⟨⟨id, n, hn, hrole⟩, h.governsAbove_host_iff.1 hq⟩
  · obtain ⟨_, rfl⟩ := hn'.functional (h.stands_of_argument hn)
    obtain ⟨q', hq'⟩ := c.exists_governsAbove a
    obtain rfl := hq.functional (h.governsAbove_argument hq' hp)
    by_cases ha : a = []
    · -- The root of the copy plays the role of the rule, and no node of the candidate is above it.
      subst ha
      obtain rfl := hq'.functional governsAbove_nil
      rw [if_pos ((hcandidate.eq_root_iff hn).2 rfl)] at hrole
      exact .argument hrole
    · -- Below its root the copy is stamped nowhere.
      rw [if_neg (mt (hcandidate.eq_root_iff hn).1 ha)] at hrole
      refine .brought ?_ ha
      rw [hcandidate.mem_edges_filled hgc]
      exact ⟨⟨k, n, hn, hrole⟩, hq'⟩

/-- Each open edge of the result is that of a rule that was not served. -/
theorem edgeAfter_of_mem_open (h : d.InsertsAt c x owner r target place i)
    (hp : d.Governs place p) (hgc : c.roleGraph = .ok gc) (hgx : x.roleGraph = .ok gx)
    (he : (⟨role, none, q⟩ : RoleEdge) ∈ gx.edges) :
    EdgeAfter d gd gc owner r place i p ⟨role, none, q⟩ := by
  obtain ⟨a', id, n', r', hn', hr', hrole, hq⟩ := (h.sound.isRootedTree.mem_edges_open hgx).1 he
  rcases h.stands_cases hn' with ⟨a, n, hn, rfl⟩ | ⟨a, k, n, hn, rfl⟩
  · obtain ⟨_, rfl⟩ := hn'.functional (h.stands_of_host hn)
    obtain ⟨hr', hother⟩ := Node.mem_rules_afterInsertion.1 hr'
    exact .waiting hn hr' hother hrole (h.governs_host_iff.1 hq)
  · obtain ⟨_, rfl⟩ := hn'.functional (h.stands_of_argument hn)
    obtain ⟨q', hq'⟩ := c.exists_governs a
    obtain rfl := hq.functional (h.governs_argument hq' hp)
    rw [Node.rules_copied] at hr'
    apply EdgeAfter.awaited
    rw [h.candidate.isRootedTree.mem_edges_open hgc]
    exact ⟨a, k, n, r', hn, hr', hrole, hq'⟩

theorem mem_edges_of_edgeAfter (h : d.InsertsAt c x owner r target place i)
    (hp : d.Governs place p) (hgd : d.roleGraph = .ok gd) (hgc : c.roleGraph = .ok gc)
    (hgx : x.roleGraph = .ok gx) {e : RoleEdge}
    (he : EdgeAfter d gd gc owner r place i p e) : e ∈ gx.edges := by
  have htree := h.sound.isRootedTree
  have hcandidate := h.candidate.isRootedTree
  cases he with
  | kept he hbefore =>
    have hstays := h.mem_edges_host hgd hgx he
    rw [Address.makeRoom_of_before hbefore] at hstays
    exact hstays
  | moved he hj =>
    have hmoves := h.mem_edges_host hgd hgx he
    rw [Address.makeRoom_of_le hj] at hmoves
    exact hmoves
  | brought he ha =>
    obtain ⟨⟨k, n, hn, hrole⟩, hq⟩ := (hcandidate.mem_edges_filled hgc).1 he
    rw [htree.mem_edges_filled hgx]
    refine ⟨⟨_, _, h.stands_of_argument hn, ?_⟩, h.governsAbove_argument hq hp⟩
    rw [if_neg (mt (hcandidate.eq_root_iff hn).1 ha)]
    exact hrole
  | argument hrole =>
    obtain ⟨n, hn⟩ := hcandidate.exists_stands (a := []) rfl
    rw [htree.mem_edges_filled hgx]
    refine ⟨⟨_, _, h.stands_of_argument hn, ?_⟩, h.governsAbove_argument governsAbove_nil hp⟩
    rw [if_pos rfl]
    exact hrole
  | waiting hn hr' hother hrole hq =>
    rw [htree.mem_edges_open hgx]
    exact ⟨_, _, _, _, h.stands_of_host hn, Node.mem_rules_afterInsertion.2 ⟨hr', hother⟩, hrole,
      h.governs_host_iff.2 hq⟩
  | awaited he =>
    obtain ⟨a, k, n, r', hn, hr', hrole, hq⟩ := (hcandidate.mem_edges_open hgc).1 he
    rw [htree.mem_edges_open hgx]
    refine ⟨_, _, _, r', h.stands_of_argument hn, ?_, hrole, h.governs_argument hq hp⟩
    rw [Node.rules_copied]
    exact hr'

theorem mem_predicates_iff (h : d.InsertsAt c x owner r target place i)
    (hgd : d.roleGraph = .ok gd) (hgc : c.roleGraph = .ok gc) (hgx : x.roleGraph = .ok gx)
    {p : String} : p ∈ gx.predicates ↔ p ∈ gd.predicates ∨ p ∈ gc.predicates := by
  rw [h.sound.isRootedTree.mem_predicates hgx, h.host.isRootedTree.mem_predicates hgd,
    h.candidate.isRootedTree.mem_predicates hgc]
  constructor
  · intro hp
    obtain ⟨a', hp⟩ := hp
    rcases h.declares_cases hp with ⟨a, _, hhost⟩ | ⟨a, _, hargument⟩
    · exact .inl ⟨a, hhost⟩
    · exact .inr ⟨a, hargument⟩
  · intro hp
    rcases hp with ⟨a, hhost⟩ | ⟨a, hargument⟩
    · exact ⟨_, h.declares_host_iff.2 hhost⟩
    · exact ⟨_, h.declares_argument_iff.2 hargument⟩

end Tree.InsertsAt

/-! ## The graph of a result -/

/-- **Semantics of insertion**: an insertion puts a copy of the candidate before the `i`-th child of
    the served rule's target, which stands at `place` and which `p` governs. The predicates of the
    result are those of both trees. Its edges are the filled ones of the host, moved where room was
    made; those of the candidate, below the place and with `p` for an absent predicate, but for that
    of its root; the edge of the argument if the rule has a role; and the open edges of all other
    rules of both. -/
theorem roleGraph_of_insertion {d c x : Tree} {owner : Nat} {r : Rule} (hd : d.Sound) (hc : c.Sound)
    (h : d.Attaches c (owner, r) x) :
    ∃ target place i p host host', d.resolve owner r.target = .ok (some target) ∧
      d.nodeAt place = .ok (some target) ∧ d.Governs place p ∧
      d.node target = .ok host ∧ x.node target = .ok host' ∧ i ≤ host.children.length ∧
      host'.children = host.children.insertIdx i (.node (c.root + d.nodes.size)) ∧
      x.nodeAt (place ++ [i]) = .ok (some (c.root + d.nodes.size)) ∧
      ∃ gd gc gx, d.roleGraph = .ok gd ∧ c.roleGraph = .ok gc ∧ x.roleGraph = .ok gx ∧
        (∀ q, q ∈ gx.predicates ↔ q ∈ gd.predicates ∨ q ∈ gc.predicates) ∧
        ∀ e, e ∈ gx.edges ↔ RoleGraph.EdgeAfter d gd gc owner r place i p e := by
  obtain ⟨target, place, i, hinserts⟩ := h.exists_insertsAt hd hc
  obtain ⟨host, hhost, hi⟩ := hinserts.position
  obtain ⟨p, hp⟩ := d.exists_governs place
  obtain ⟨gd, hgd⟩ := hd.isRootedTree.exists_roleGraph
  obtain ⟨gc, hgc⟩ := hc.isRootedTree.exists_roleGraph
  obtain ⟨gx, hgx⟩ := hinserts.sound.isRootedTree.exists_roleGraph
  have hhost' : x.node target =
      .ok (host.afterInsertion target r owner target i (c.root + d.nodes.size)) := by
    rw [hinserts.result]
    exact Tree.node_spliced_of_lt hhost
  refine ⟨target, place, i, p, host, _, hinserts.resolve, hinserts.nodeAt, hp, hhost, hhost', hi,
    ?_, hinserts.nodeAt_argument rfl, gd, gc, gx, hgd, hgc, hgx, ?_, ?_⟩
  · rw [Node.afterInsertion, if_pos rfl]
  · intro q
    exact hinserts.mem_predicates_iff hgd hgc hgx
  · intro e
    constructor
    · intro he
      obtain ⟨role, argument, q⟩ := e
      cases argument with
      | some a => exact hinserts.edgeAfter_of_mem_filled hp hgd hgc hgx he
      | none => exact hinserts.edgeAfter_of_mem_open hp hgc hgx he
    · intro he
      exact hinserts.mem_edges_of_edgeAfter hp hgd hgc hgx he

/-- A clause that waits for a subject and, at its verb phrase before the verb, for an argument. -/
def Tree.wantClause : Tree where
  nodes := #[{ Node.plain "S" [{ nounRule [0] .left with role := some "ARG1" },
      { nounRule [] .left with role := some "ARG0" }] [.node 1] with predicate := some "want" },
    .plain "VP" [] [.leaf "wants", .node 2],
    { Node.plain "NP" [] [.leaf "fish"] with role := some "ARG2" }]
  root := 0

/-- A noun phrase with roles of its own and none of its own predicates. -/
def Tree.openNoun : Tree where
  nodes := #[{ Node.plain "NP" [{ nounRule [] .right with role := some "ARG3" }] [.node 1] with
      role := some "whole" },
    { Node.plain "NN" [] [.leaf "cats"] with role := some "part" }]
  root := 0

/-- The clause with the noun phrase at its verb phrase. -/
def Tree.wantClauseWithNoun : Tree where
  nodes := #[{ Node.plain "S" [{ nounRule [] .left with role := some "ARG0" }] [.node 1] with
      predicate := some "want" },
    .plain "VP" [] [.node 3, .leaf "wants", .node 2],
    { Node.plain "NP" [] [.leaf "fish"] with role := some "ARG2" },
    { Node.plain "NP" [{ nounRule [] .right with role := some "ARG3" }] [.node 4] with
      role := some "ARG1", attached := true, attachedSlot := some .left },
    { Node.plain "NN" [] [.leaf "cats"] with role := some "part" }]
  root := 0

/-- The object's edge moves from the second to the third place, and the edge of the noun's inner
    role comes under the clause's predicate. -/
theorem roleGraph_of_insertion_wantClause :
    Tree.wantClause.Sound ∧ Tree.openNoun.Sound ∧
    Tree.wantClause.Attaches .openNoun (0, { nounRule [0] .left with role := some "ARG1" })
      .wantClauseWithNoun ∧
    ∃ place i p gd gc, Tree.wantClause.roleGraph = .ok gd ∧ Tree.openNoun.roleGraph = .ok gc ∧
      gd.edges.elems = [⟨"ARG0", none, some "want"⟩, ⟨"ARG1", none, some "want"⟩,
        ⟨"ARG2", some [0, 1], some "want"⟩] ∧
      gc.edges.elems = [⟨"ARG3", none, none⟩, ⟨"part", some [0], none⟩, ⟨"whole", some [], none⟩] ∧
      ∀ e, e ∈ [⟨"ARG0", none, some "want"⟩, ⟨"ARG1", some [0, 0], some "want"⟩,
          ⟨"ARG2", some [0, 2], some "want"⟩, ⟨"ARG3", none, some "want"⟩,
          ⟨"part", some [0, 0, 0], some "want"⟩] ↔
        RoleGraph.EdgeAfter .wantClause gd gc 0 { nounRule [0] .left with role := some "ARG1" }
          place i p e := by
  have hclause : Tree.wantClause.Sound := by decide
  have hnoun : Tree.openNoun.Sound := by decide
  have hattaches : Tree.wantClause.Attaches .openNoun
      (0, { nounRule [0] .left with role := some "ARG1" }) .wantClauseWithNoun := by
    decide +kernel
  obtain ⟨_, place, i, p, _, _, _, _, _, _, _, _, _, _, gd, gc, gx, hgd, hgc, hgx, _, hedges⟩ :=
    roleGraph_of_insertion hclause hnoun hattaches
  have hhost : ∃ g, Tree.wantClause.roleGraph = .ok g ∧ g.edges.elems =
      [⟨"ARG0", none, some "want"⟩, ⟨"ARG1", none, some "want"⟩,
        ⟨"ARG2", some [0, 1], some "want"⟩] := by
    decide +kernel
  have hcandidate : ∃ g, Tree.openNoun.roleGraph = .ok g ∧ g.edges.elems =
      [⟨"ARG3", none, none⟩, ⟨"part", some [0], none⟩, ⟨"whole", some [], none⟩] := by
    decide +kernel
  have hresult : ∃ g, Tree.wantClauseWithNoun.roleGraph = .ok g ∧ g.edges.elems =
      [⟨"ARG0", none, some "want"⟩, ⟨"ARG1", some [0, 0], some "want"⟩,
        ⟨"ARG2", some [0, 2], some "want"⟩, ⟨"ARG3", none, some "want"⟩,
        ⟨"part", some [0, 0, 0], some "want"⟩] := by
    decide +kernel
  obtain ⟨_, hgd', hd⟩ := hhost
  obtain ⟨_, hgc', hc⟩ := hcandidate
  obtain ⟨_, hgx', hx⟩ := hresult
  obtain rfl := Except.ok.inj (hgd.symm.trans hgd')
  obtain rfl := Except.ok.inj (hgc.symm.trans hgc')
  obtain rfl := Except.ok.inj (hgx.symm.trans hgx')
  refine ⟨hclause, hnoun, hattaches, place, i, p, gd, gc, hgd, hgc, hd, hc, ?_⟩
  intro e
  rw [← hedges e, ← hx]
  rfl

end SpineGrammar
