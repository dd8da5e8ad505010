import SpineGrammar.Proofs.SideCounts

/-!
# Rule order is surface order

A history lists the insertions that led to a derivation. At each node of a derivation over trees of
records stand, from left to right, the trees that its left rules took, by the order of the rules,
then its own child, if it has one, and the trees that its right rules took, by the order of the
rules again. The order in which the rules were served plays no part.
-/

namespace SpineGrammar

/-! ## Histories -/

/-- One insertion of a history: which tree came in, for which rule of which node, and under which
    id its root was copied. -/
structure Insertion where
  candidate : Tree
  owner : Nat
  rule : Rule
  root : Nat

/-- `t₀.Grows log x`: starting from `t₀`, the insertions of `log` lead to `x`. -/
inductive Tree.Grows (t₀ : Tree) : List Insertion → Tree → Prop where
  | start : Grows t₀ [] t₀
  | step {log : List Insertion} {d c x : Tree} {owner : Nat} {r : Rule} :
      Grows t₀ log d → d.Attaches c (owner, r) x →
        Grows t₀ (log ++ [⟨c, owner, r, c.root + d.nodes.size⟩]) x

/-- Each result of an insertion continues a history. -/
theorem Tree.Grows.exists_of_mem_attach {t₀ d c x : Tree} {log : List Insertion}
    (h : t₀.Grows log d) {xs : List Tree} (hxs : d.attach c = .ok xs) (hx : x ∈ xs) :
    ∃ e, e.candidate = c ∧ t₀.Grows (log ++ [e]) x := by
  obtain ⟨⟨owner, r⟩, hattaches⟩ := exists_attaches_of_mem hxs hx
  exact ⟨_, rfl, h.step hattaches⟩

/-- The tables of a tree and of the inserted trees, one behind the other, as if nothing had been
    inserted: every node has the children and the rules of the tree that it came with. -/
def Tree.sideBySide (t₀ : Tree) (log : List Insertion) : Tree :=
  log.foldl (fun t e => t.extend e.candidate.nodes) t₀

theorem Tree.sideBySide_append (t₀ : Tree) (log : List Insertion) (e : Insertion) :
    t₀.sideBySide (log ++ [e]) = (t₀.sideBySide log).extend e.candidate.nodes := by
  rw [sideBySide, List.foldl_append]
  rfl

/-! ## The trees on one side -/

/-- `Arguments log id slot roots`: at place `i` of `roots` is the root of the tree that the rule of
    order `i` for the side `slot` of the node took. -/
def Arguments (log : List Insertion) (id : Nat) (slot : Slot) (roots : List Nat) : Prop :=
  ∀ i root, roots[i]? = some root ↔
    ∃ e ∈ log, e.owner = id ∧ e.rule.slot = slot ∧ e.rule.order = i ∧ e.root = root

section Arguments

variable {log : List Insertion} {id : Nat} {slot : Slot} {roots : List Nat} {e : Insertion}

theorem arguments_nil (h : ∀ e ∈ log, e.owner ≠ id) (slot : Slot) : Arguments log id slot [] := by
  intro i root
  rw [List.getElem?_nil]
  constructor
  · intro hnone
    cases hnone
  · rintro ⟨e, he, howner, _⟩
    exact absurd howner (h e he)

/-- An insertion elsewhere leaves the trees on a side as they are. -/
theorem Arguments.append_other (h : Arguments log id slot roots)
    (hother : e.owner = id → e.rule.slot ≠ slot) : Arguments (log ++ [e]) id slot roots := by
  intro i root
  rw [h i root]
  constructor
  · rintro ⟨e', he', hentry⟩
    exact ⟨e', List.mem_append_left _ he', hentry⟩
  · rintro ⟨e', he', howner, hslot, hentry⟩
    rcases List.mem_append.1 he' with he' | he'
    · exact ⟨e', he', howner, hslot, hentry⟩
    · rw [List.mem_singleton.1 he'] at howner hslot
      exact absurd hslot (hother howner)

/-- An insertion for the next order of a side puts its tree behind the others. -/
theorem Arguments.append_self (h : Arguments log e.owner e.rule.slot roots)
    (horder : e.rule.order = roots.length) :
    Arguments (log ++ [e]) e.owner e.rule.slot (roots ++ [e.root]) := by
  intro i root
  by_cases hi : i = roots.length
  · subst hi
    rw [List.getElem?_concat_length, Option.some.injEq]
    constructor
    · rintro rfl
      exact ⟨e, List.mem_append_right _ (List.mem_singleton_self e), rfl, rfl, horder, rfl⟩
    · rintro ⟨e', he', howner, hslot, horder', hroot⟩
      rcases List.mem_append.1 he' with he' | he'
      · -- No earlier rule of the side had this order.
        have hearlier := (h roots.length root).2 ⟨e', he', howner, hslot, horder', hroot⟩
        rw [List.getElem?_eq_none (Nat.le_refl _)] at hearlier
        cases hearlier
      · rw [List.mem_singleton.1 he'] at hroot
        exact hroot
  · have hroots : (roots ++ [e.root])[i]? = roots[i]? := by
      rcases Nat.lt_or_ge i roots.length with hlt | hge
      · exact List.getElem?_append_left hlt
      · rw [List.getElem?_eq_none hge, List.getElem?_eq_none]
        rw [List.length_append, List.length_singleton]
        omega
    rw [hroots, h i root]
    constructor
    · rintro ⟨e', he', hentry⟩
      exact ⟨e', List.mem_append_left _ he', hentry⟩
    · rintro ⟨e', he', howner, hslot, horder', hroot⟩
      rcases List.mem_append.1 he' with he' | he'
      · exact ⟨e', he', howner, hslot, horder', hroot⟩
      · rw [List.mem_singleton.1 he', horder] at horder'
        exact absurd horder'.symm hi

end Arguments

/-! ## The gap between two sides -/

namespace Tree

variable {t d c x : Tree} {id : Nat} {left mid right : List Child}

/-- Whether a child was attached on a side. -/
def OnSide (t : Tree) (slot : Slot) (ch : Child) : Prop :=
  t.stance ch = .ok (some (true, some slot))

/-- Whether a child continues the spine: a word, or a node that was not attached. -/
def OnSpine (t : Tree) (ch : Child) : Prop :=
  t.stance ch = .ok none ∨ ∃ side, t.stance ch = .ok (some (false, side))

theorem spineChildFrom_append {slot : Slot} (h : ∀ ch ∈ left, t.OnSide slot ch) (j : Nat)
    (cs : List Child) :
    t.spineChildFrom j (left ++ cs) = t.spineChildFrom (j + left.length) cs := by
  induction left generalizing j with
  | nil => rfl
  | cons ch left ih =>
    obtain ⟨hch, hleft⟩ := List.forall_mem_cons.1 h
    rw [List.cons_append, spineChildFrom_cons, hch, ok_bind, List.length_cons]
    show t.spineChildFrom (j + 1) (left ++ cs) = _
    rw [ih hleft, Nat.add_assoc, Nat.add_comm 1]

theorem leftCount_append (h : ∀ ch ∈ left, t.OnSide .left ch) (label : String) {cs : List Child}
    {k : Nat} (hk : t.leftCount label cs = .ok k) :
    t.leftCount label (left ++ cs) = .ok (left.length + k) := by
  induction left with
  | nil => rw [List.nil_append, hk, List.length_nil, Nat.zero_add]
  | cons ch left ih =>
    obtain ⟨hch, hleft⟩ := List.forall_mem_cons.1 h
    rw [List.cons_append, leftCount_cons, hch, ok_bind, List.length_cons]
    simp only [ih hleft, ok_bind, pure_eq_ok]
    congr 1
    omega

theorem leftCount_of_right (h : ∀ ch ∈ right, t.OnSide .right ch) (label : String) :
    t.leftCount label right = .ok 0 := by
  induction right with
  | nil => rfl
  | cons ch right ih =>
    obtain ⟨hch, hright⟩ := List.forall_mem_cons.1 h
    rw [leftCount_cons, hch, ok_bind]
    exact ih hright

/-- The spine runs between the children attached on the left and those attached on the right. -/
theorem gap_eq_ok {n : Node} (hn : t.node id = .ok n)
    (hchildren : n.children = left ++ mid ++ right) (hmid : mid.length ≤ 1)
    (hspine : ∀ ch ∈ mid, t.OnSpine ch) (hleft : ∀ ch ∈ left, t.OnSide .left ch)
    (hright : ∀ ch ∈ right, t.OnSide .right ch) :
    t.gap id = .ok ⟨left.length, mid.length⟩ := by
  rw [gap, hn, ok_bind, spineChild?, hchildren, List.append_assoc, spineChildFrom_append hleft]
  cases mid with
  | nil =>
    have hnone : t.spineChildFrom (0 + left.length) right = .ok none := by
      rw [← List.append_nil right, spineChildFrom_append hright]
      rfl
    rw [List.nil_append, hnone, ok_bind]
    simp only [leftCount_append hleft _ (leftCount_of_right hright _), ok_bind, pure_eq_ok]
    rfl
  | cons ch rest =>
    obtain rfl : rest = [] := List.length_eq_zero_iff.1 (by simpa using hmid)
    have hsome : t.spineChildFrom (0 + left.length) ([ch] ++ right) = .ok (some left.length) := by
      rw [List.singleton_append, spineChildFrom_cons]
      rcases hspine ch (List.mem_singleton_self ch) with hword | ⟨side, hnode⟩
      · simp [hword]
      · simp [hnode]
    rw [hsome]
    rfl

end Tree

/-! ## Arrangements -/

/-- The children that the node `id` of an elementary tree has: none, a word, or the next node of the
    spine. -/
def OwnChildren (id : Nat) (cs : List Child) : Prop :=
  cs = [] ∨ (∃ word, cs = [.leaf word]) ∨ cs = [.node (id + 1)]

theorem OwnChildren.length_le {id : Nat} {cs : List Child} (h : OwnChildren id cs) :
    cs.length ≤ 1 := by
  rcases h with rfl | ⟨word, rfl⟩ | rfl <;> simp

theorem OwnChildren.shift {id : Nat} {cs : List Child} (h : OwnChildren id cs) (k : Nat) :
    OwnChildren (id + k) (cs.map (Child.shift k)) := by
  rcases h with rfl | ⟨word, rfl⟩ | rfl
  · exact .inl rfl
  · exact .inr (.inl ⟨word, rfl⟩)
  · refine .inr (.inr ?_)
    rw [List.map_singleton, Child.shift, Nat.add_right_comm]

namespace Tree

/-- `t.Arrangement log id n own sides`: the node `id`, which was `own` when it came in and is `n` in
    `t`, has its own child between the trees that its left and its right rules took, by the orders
    of these rules. -/
structure Arrangement (t : Tree) (log : List Insertion) (id : Nat) (n own : Node)
    (sides : Slot → List Nat) : Prop where
  children : n.children = (sides .left).map .node ++ own.children ++ (sides .right).map .node
  own_children : OwnChildren id own.children
  arguments : ∀ slot, Arguments log id slot (sides slot)
  served : ∀ e ∈ log, e.owner = id → e.rule ∈ own.rules ∧ e.rule ∉ n.rules
  rules_subset : ∀ r ∈ n.rules, r ∈ own.rules
  on_side : ∀ slot, ∀ k ∈ sides slot, t.OnSide slot (.node k)
  on_spine : ∀ ch ∈ own.children, t.OnSpine ch

variable {t t₀ d c x : Tree} {log : List Insertion} {id owner i : Nat} {n own : Node}
  {sides : Slot → List Nat} {r : Rule} {ch : Child}

theorem OnSide.spliced {slot : Slot} (h : d.OnSide slot ch) :
    (d.spliced c r owner owner i).OnSide slot ch := stance_spliced h

theorem OnSpine.spliced (h : d.OnSpine ch) : (d.spliced c r owner owner i).OnSpine ch := by
  rcases h with hword | ⟨side, hnode⟩
  · exact .inl (stance_spliced hword)
  · exact .inr ⟨side, stance_spliced hnode⟩

/-- The trees on the two sides after one more came to the end of a side. -/
def extendSide (sides : Slot → List Nat) (slot : Slot) (root : Nat) (side : Slot) : List Nat :=
  if side = slot then sides side ++ [root] else sides side

/-- A list with an element put in where its first part ends. -/
theorem insertIdx_length_append {α : Type} (first rest : List α) (a : α) :
    (first ++ rest).insertIdx first.length a = first ++ a :: rest := by
  induction first with
  | nil => exact List.insertIdx_zero
  | cons b first ih => rw [List.cons_append, List.length_cons, List.insertIdx_succ_cons, ih,
      List.cons_append]

/-- A child put in at the edge of a side comes to the end of this side. -/
theorem insertIdx_edge_sides (sides : Slot → List Nat) (slot : Slot) (root : Nat)
    {cs mid : List Child}
    (hcs : cs = (sides .left).map .node ++ mid ++ (sides .right).map .node) :
    cs.insertIdx (slot.edge (sides slot).length cs.length) (.node root) =
      (extendSide sides slot root .left).map .node ++ mid ++
        (extendSide sides slot root .right).map .node := by
  cases slot with
  | left =>
    have hleft : (sides .left).length = ((sides .left).map Child.node).length := by
      rw [List.length_map]
    rw [Slot.edge, hcs, List.append_assoc, hleft, insertIdx_length_append]
    simp [extendSide]
  | right =>
    rw [Slot.edge, List.insertIdx_length_self, hcs]
    simp [extendSide]

namespace Arrangement

/-- A rule that is served has the next order of its side, and its argument comes to the edge of that
    side. -/
theorem position (h : d.Arrangement log id n own sides) (hn : d.node id = .ok n)
    {gap : SpineGap} {slot : Slot} {order : Nat} (hgap : d.gap id = .ok gap)
    (hi : gap.position? n.children.length slot order = some i) :
    order = (sides slot).length ∧ i = slot.edge order n.children.length := by
  have hspot := gap_eq_ok hn h.children h.own_children.length_le h.on_spine
    (List.forall_mem_map.2 (h.on_side .left)) (List.forall_mem_map.2 (h.on_side .right))
  obtain rfl := Except.ok.inj (hgap.symm.trans hspot)
  have hlength := congrArg List.length h.children
  simp only [List.length_append, List.length_map] at hlength
  rw [List.length_map, SpineGap.position?_eq_some_iff] at hi
  obtain ⟨hside, hi⟩ := hi
  refine ⟨?_, hi⟩
  cases slot with
  | left =>
    simp only [SpineGap.side, SpineGap.sides] at hside
    omega
  | right =>
    simp only [SpineGap.side, SpineGap.sides] at hside
    omega

/-- A node that does not own the served rule keeps its arrangement. -/
theorem spliced_of_ne (h : d.Arrangement log id n own sides) (hne : id ≠ owner) :
    (d.spliced c r owner owner i).Arrangement
      (log ++ [⟨c, owner, r, c.root + d.nodes.size⟩]) id n own sides where
  children := h.children
  own_children := h.own_children
  arguments := fun slot => (h.arguments slot).append_other fun heq => absurd heq.symm hne
  served := by
    intro e he howner
    rcases List.mem_append.1 he with he | he
    · exact h.served e he howner
    · rw [List.mem_singleton.1 he] at howner
      exact absurd howner.symm hne
  rules_subset := h.rules_subset
  on_side := fun slot k hk => (h.on_side slot k hk).spliced
  on_spine := fun ch hch => (h.on_spine ch hch).spliced

/-- The owner of the served rule has the argument at the end of the rule's side. -/
theorem spliced_self (h : d.Arrangement log id n own sides) (hn : d.node id = .ok n)
    (hr : r ∈ n.rules) {gap : SpineGap} (hgap : d.gap id = .ok gap)
    (hi : gap.position? n.children.length r.slot r.order = some i)
    (hroot : (d.spliced c r id id i).OnSide r.slot (.node (c.root + d.nodes.size))) :
    (d.spliced c r id id i).Arrangement
      (log ++ [⟨c, id, r, c.root + d.nodes.size⟩]) id
      (n.afterInsertion id r id id i (c.root + d.nodes.size)) own
      (extendSide sides r.slot (c.root + d.nodes.size)) := by
  obtain ⟨horder, hedge⟩ := h.position hn hgap hi
  rw [Node.afterInsertion, if_pos rfl, if_pos rfl]
  -- Only the rule's side changes: its last tree is the argument, for the rule of the next order.
  refine ⟨?_, h.own_children, ?_, ?_, ?_, ?_, fun ch hch => (h.on_spine ch hch).spliced⟩
  · show n.children.insertIdx i _ = _
    rw [hedge, horder]
    exact insertIdx_edge_sides sides r.slot _ h.children
  · intro slot
    by_cases hslot : slot = r.slot
    · subst hslot
      rw [extendSide, if_pos rfl]
      exact (h.arguments r.slot).append_self (e := ⟨c, id, r, c.root + d.nodes.size⟩) horder
    · rw [extendSide, if_neg hslot]
      exact (h.arguments slot).append_other fun _ => Ne.symm hslot
  · intro e he howner
    rcases List.mem_append.1 he with he | he
    · obtain ⟨hown, hgone⟩ := h.served e he howner
      exact ⟨hown, fun hmem => hgone (List.mem_of_mem_filter hmem)⟩
    · rw [List.mem_singleton.1 he]
      refine ⟨h.rules_subset r hr, fun hmem => ?_⟩
      exact of_decide_eq_true (List.mem_filter.1 hmem).2 rfl
  · exact fun p hp => h.rules_subset p (List.mem_of_mem_filter hp)
  · intro slot k hk
    by_cases hslot : slot = r.slot
    · rw [extendSide, if_pos hslot] at hk
      rcases List.mem_append.1 hk with hk | hk
      · exact (h.on_side slot k hk).spliced
      · rw [List.mem_singleton.1 hk, hslot]
        exact hroot
    · rw [extendSide, if_neg hslot] at hk
      exact (h.on_side slot k hk).spliced

end Arrangement

/-! ## Trees of records -/

/-- Whether a tree is one of those that some record describes. -/
def OfRecord (t : Tree) : Prop :=
  ∃ (r : TreeRecord) (index : Nat) (ts : List Tree), r.trees index = .ok ts ∧ t ∈ ts

/-- Whether all rules of a tree act on their owners. -/
def SelfAddressed (t : Tree) : Prop := ∀ n ∈ t.nodes, ∀ r ∈ n.rules, r.target = []

instance (t : Tree) : Decidable t.SelfAddressed :=
  inferInstanceAs (Decidable (∀ n ∈ t.nodes, ∀ r ∈ n.rules, r.target = []))

theorem OfRecord.linear (h : t.OfRecord) : t.Linear := by
  obtain ⟨r, index, ts, hts, ht⟩ := h
  exact TreeRecord.linear_trees hts t ht

theorem OfRecord.own_children (h : t.OfRecord) (hn : t.node id = .ok n) :
    OwnChildren id n.children := by
  have hlinear := h.linear
  obtain ⟨r, index, ts, hts, ht⟩ := h
  have hle := TreeRecord.length_children_le_one hts ht hn
  cases hchildren : n.children with
  | nil => exact .inl rfl
  | cons ch rest =>
    rw [hchildren, List.length_cons] at hle
    obtain rfl : rest = [] := List.length_eq_zero_iff.1 (by omega)
    cases ch with
    | leaf word => exact .inr (.inl ⟨word, rfl⟩)
    | node k =>
      have hfirst : n.children[0]? = some (.node k) := by rw [hchildren]; rfl
      obtain ⟨_, rfl, _⟩ := hlinear.next id n 0 k hn hfirst
      exact .inr (.inr rfl)

/-- No child of a tree of a record was attached, and none is the root. -/
theorem OfRecord.on_spine (h : t.OfRecord) (hn : t.node id = .ok n) (hch : ch ∈ n.children) :
    t.OnSpine ch ∧ ch ≠ .node t.root := by
  have hlinear := h.linear
  obtain ⟨i, hi⟩ := List.getElem?_of_mem hch
  cases ch with
  | leaf word => exact ⟨.inl rfl, fun heq => by cases heq⟩
  | node k =>
    obtain ⟨_, rfl, hlt⟩ := hlinear.next id n i k hn hi
    obtain ⟨m, hm, hnode⟩ := exists_node hlt
    refine ⟨.inr ⟨m.attachedSlot, ?_⟩, ?_⟩
    · rw [stance_node hnode, hlinear.unattached m hm]
    · rw [hlinear.root]
      intro heq
      cases heq

/-- A tree of a record starts with its own children only. -/
theorem OfRecord.arrangement (h : t.OfRecord) (hn : t.node id = .ok n) :
    t.Arrangement [] id n n fun _ => [] where
  children := by simp
  own_children := h.own_children hn
  arguments := arguments_nil fun _ he => absurd he List.not_mem_nil
  served := fun _ he => absurd he List.not_mem_nil
  rules_subset := fun _ hr => hr
  on_side := fun _ _ hk => absurd hk List.not_mem_nil
  on_spine := fun _ hch => (h.on_spine hn hch).1

/-- A node of the candidate comes with its own children only. -/
theorem OfRecord.arrangement_spliced (hc : c.OfRecord) {k : Nat} (hn : c.node k = .ok n)
    (howner : owner < d.nodes.size) (hlog : ∀ e ∈ log, e.owner < d.nodes.size) :
    (d.spliced c r owner owner i).Arrangement
      (log ++ [⟨c, owner, r, c.root + d.nodes.size⟩]) (k + d.nodes.size)
      (if k = c.root then (n.shift d.nodes.size).stamp r else n.shift d.nodes.size)
      (n.shift d.nodes.size) fun _ => [] := by
  have hnone : ∀ e ∈ log ++ [⟨c, owner, r, c.root + d.nodes.size⟩],
      e.owner ≠ k + d.nodes.size := by
    intro e he
    rcases List.mem_append.1 he with he | he
    · have hlt := hlog e he
      omega
    · rw [List.mem_singleton.1 he]
      show owner ≠ k + d.nodes.size
      omega
  refine ⟨?_, (hc.own_children hn).shift d.nodes.size, arguments_nil hnone,
    fun e he heq => absurd heq (hnone e he), ?_, fun _ _ hk => absurd hk List.not_mem_nil, ?_⟩
  · split <;> simp [Node.stamp]
  · intro p hp
    split at hp <;> exact hp
  · intro ch hch
    obtain ⟨old, hold, rfl⟩ := List.mem_map.1 hch
    obtain ⟨hspine, hroot⟩ := hc.on_spine hn hold
    rcases hspine with hword | ⟨side, hnode⟩
    · exact .inl (stance_spliced_shift howner howner hword hroot)
    · exact .inr ⟨side, stance_spliced_shift howner howner hnode hroot⟩

/-! ## Runs -/

/-- What every derivation of a history over trees of records keeps: its nodes are those of the trees
    that came in, each arranged by the history. -/
structure Arranged (t₀ : Tree) (log : List Insertion) (x : Tree) : Prop extends Sound x where
  self_addressed : x.SelfAddressed
  size_eq : (t₀.sideBySide log).nodes.size = x.nodes.size
  owner_lt : ∀ e ∈ log, e.owner < x.nodes.size
  arrangement : ∀ id n, x.node id = .ok n → ∃ own sides,
    (t₀.sideBySide log).node id = .ok own ∧ x.Arrangement log id n own sides

/-- A node of the host after an insertion. -/
theorem Arranged.arrangement_host (h : t₀.Arranged log d) (hcsound : c.Sound) {m : Node}
    (hm : d.node owner = .ok m) (hr : r ∈ m.rules) {gap : SpineGap} (hgap : d.gap owner = .ok gap)
    (hi : gap.position? m.children.length r.slot r.order = some i) (hn : d.node id = .ok n) :
    ∃ own sides, ((t₀.sideBySide log).extend c.nodes).node id = .ok own ∧
      (d.spliced c r owner owner i).Arrangement
        (log ++ [⟨c, owner, r, c.root + d.nodes.size⟩]) id
        (n.afterInsertion id r owner owner i (c.root + d.nodes.size)) own sides := by
  obtain ⟨own, sides, hown, harrangement⟩ := h.arrangement id n hn
  have hkept : ((t₀.sideBySide log).extend c.nodes).node id = .ok own := by
    rw [node_extend_of_lt _ _ (h.size_eq ▸ lt_of_node_eq_ok hn), hown]
  by_cases hne : id = owner
  · subst hne
    obtain rfl := Except.ok.inj (hm.symm.trans hn)
    -- The root of the argument is stamped with the side of the rule.
    obtain ⟨root, _, hroot⟩ := exists_node hcsound.root_lt
    have hside : (d.spliced c r id id i).OnSide r.slot (.node (c.root + d.nodes.size)) := by
      have hid := lt_of_node_eq_ok hm
      have hcopy := node_spliced_add (r := r) (i := i) hid hid hroot
      rw [if_pos rfl] at hcopy
      rw [OnSide, stance_node hcopy]
      rfl
    exact ⟨own, _, hkept, harrangement.spliced_self hn hr hgap hi hside⟩
  · have hsame : n.afterInsertion id r owner owner i (c.root + d.nodes.size) = n := by
      rw [Node.afterInsertion, if_neg hne, if_neg hne]
    rw [hsame]
    exact ⟨own, sides, hkept, harrangement.spliced_of_ne hne⟩

/-- The step: an insertion keeps a derivation arranged. -/
theorem Arranged.step (h : t₀.Arranged log d) (hc : c.OfRecord) (hself : c.SelfAddressed)
    (hattaches : d.Attaches c (owner, r) x) :
    t₀.Arranged (log ++ [⟨c, owner, r, c.root + d.nodes.size⟩]) x := by
  have hcsound := hc.linear.sound
  have hsound := hattaches.sound h.toSound hcsound
  obtain ⟨m, hm, hforemost⟩ := hattaches.foremost h.toSound hcsound
  have htarget := h.self_addressed m (mem_of_node_eq_ok hm) r hforemost.mem
  obtain ⟨target, gap, host, i, hplace, hgap, hhost, hi, rfl⟩ :=
    exists_of_splice_eq_some hattaches.result
  -- The rule acts on its owner, whose arrangement says how many children are on the rule's side.
  obtain rfl : owner = target := by simpa [htarget, resolve] using hplace
  obtain rfl := Except.ok.inj (hm.symm.trans hhost)
  have howner := lt_of_node_eq_ok hm
  have hsize : (d.spliced c r owner owner i).nodes.size = d.nodes.size + c.nodes.size :=
    size_spliced
  refine ⟨hsound, ?_, ?_, ?_, ?_⟩
  · exact forall_mem_spliced h.self_addressed hself (fun _ hn => hn) (fun _ hn => hn)
      (fun _ hn p hp => hn p (List.mem_of_mem_filter hp))
  · rw [sideBySide_append, size_extend, h.size_eq, hsize]
  · intro e he
    rw [hsize]
    rcases List.mem_append.1 he with he | he
    · have hlt := h.owner_lt e he
      omega
    · rw [List.mem_singleton.1 he]
      exact Nat.lt_add_right _ howner
  · intro id n hn
    rw [sideBySide_append]
    have hid := lt_of_node_eq_ok hn
    rw [hsize] at hid
    by_cases hhosted : id < d.nodes.size
    · obtain ⟨old, _, hold⟩ := exists_node hhosted
      obtain rfl := Except.ok.inj (hn.symm.trans (node_spliced_of_lt hold))
      exact h.arrangement_host hcsound hm hforemost.mem hgap hi hold
    · -- A node of the candidate.
      obtain ⟨k, rfl⟩ : ∃ k, id = k + d.nodes.size := ⟨id - d.nodes.size, by omega⟩
      have hk : k < c.nodes.size := by omega
      obtain ⟨old, _, hold⟩ := exists_node hk
      obtain rfl := Except.ok.inj (hn.symm.trans (node_spliced_add howner howner hold))
      refine ⟨_, _, ?_, hc.arrangement_spliced hold howner h.owner_lt⟩
      rw [← h.size_eq, node_extend_shift hold]

/-- The run: every derivation over trees of records is arranged by its history. -/
theorem Grows.arranged (h : t₀.Grows log x) (h₀ : t₀.OfRecord) (hself₀ : t₀.SelfAddressed)
    (hlog : ∀ e ∈ log, e.candidate.OfRecord ∧ e.candidate.SelfAddressed) : t₀.Arranged log x := by
  induction h with
  | start =>
    refine ⟨h₀.linear.sound, hself₀, rfl, fun _ he => absurd he List.not_mem_nil, ?_⟩
    intro id n hn
    exact ⟨n, _, hn, h₀.arrangement hn⟩
  | @step log d c x owner r _ hattaches ih =>
    obtain ⟨hc, hself⟩ := hlog _ (List.mem_append_right _ (List.mem_singleton_self _))
    exact (ih fun e he => hlog e (List.mem_append_left _ he)).step hc hself hattaches

end Tree

/-- **Surface order**: in every derivation that a history of insertions leads to, over trees of
    records whose rules act on their owners, the children of each node are the trees that its left
    rules took, by the orders of the rules from 0 on, then its own child, if it has one, and then
    the trees that its right rules took, by the orders of the rules. Each result of an insertion
    goes on with a history. -/
theorem rule_order_is_surface_order :
    (∀ (t₀ d c : Tree) (log : List Insertion) (xs : List Tree), t₀.Grows log d →
      d.attach c = .ok xs → ∀ x ∈ xs, ∃ e, e.candidate = c ∧ t₀.Grows (log ++ [e]) x) ∧
    ∀ (t₀ x : Tree) (log : List Insertion), t₀.OfRecord → t₀.SelfAddressed →
      (∀ e ∈ log, e.candidate.OfRecord ∧ e.candidate.SelfAddressed) → t₀.Grows log x →
      ∀ id n, x.node id = .ok n → ∃ own left right, (t₀.sideBySide log).node id = .ok own ∧
        OwnChildren id own.children ∧
        n.children = left.map .node ++ own.children ++ right.map .node ∧
        Arguments log id .left left ∧ Arguments log id .right right ∧
        ∀ e ∈ log, e.owner = id → e.rule ∈ own.rules ∧ e.rule ∉ n.rules := by
  refine ⟨fun t₀ d c log xs hgrows hxs x hx => hgrows.exists_of_mem_attach hxs hx, ?_⟩
  intro t₀ x log h₀ hself₀ hlog hgrows id n hn
  obtain ⟨own, sides, hown, h⟩ := (hgrows.arranged h₀ hself₀ hlog).arrangement id n hn
  exact ⟨own, sides .left, sides .right, hown, h.own_children, h.children, h.arguments .left,
    h.arguments .right, h.served⟩

/-- The record of a rule for the first noun phrase on one side of the spine at an address. -/
def nounRuleRecord (target : Address) (slot : Int) : RuleRecord where
  kind := .attach
  pos := "NP"
  target := .indices target
  slot := slot
  order := some 0
  role := none
  description := none
  attachCounts := .empty

/-- The record of a clause that waits for three noun phrases. -/
def openRecord : TreeRecord where
  spine := "(S (VP))"
  word := some "chase"
  lexicon := none
  treeType := none
  predicate := none
  rolesetId := none
  argCount := none
  treeId := none
  rules := [nounRuleRecord [] 0, nounRuleRecord [] 1, nounRuleRecord [0] 1]

/-- What follows the verb phrase comes in before the subject. -/
def openHistory : List Insertion :=
  [⟨.noun, 0, nounRule [] .right, 2⟩, ⟨.noun, 0, nounRule [] .left, 3⟩]

theorem rule_order_is_surface_order_openClause :
    Tree.openClause.OfRecord ∧ Tree.openClause.SelfAddressed ∧ Tree.noun.OfRecord ∧
    Tree.noun.SelfAddressed ∧
    (∃ xs, Tree.openClause.attach .noun = .ok xs ∧ xs ≠ [] ∧
      ∀ x ∈ xs, ∃ e, e.candidate = .noun ∧ Tree.openClause.Grows ([] ++ [e]) x) ∧
    ∃ x n, Tree.openClause.Grows openHistory x ∧ x.node 0 = .ok n ∧
      n.children = [.node 3, .node 1, .node 2] ∧
      ∃ own left right, (Tree.openClause.sideBySide openHistory).node 0 = .ok own ∧
        OwnChildren 0 own.children ∧
        n.children = left.map .node ++ own.children ++ right.map .node ∧
        Arguments openHistory 0 .left left ∧ Arguments openHistory 0 .right right ∧
        ∀ e ∈ openHistory, e.owner = 0 → e.rule ∈ own.rules ∧ e.rule ∉ n.rules := by
  have hclause : openRecord.trees 0 = .ok [.openClause] := by decide +kernel
  have hnoun : nounRecord.trees 0 = .ok [.noun] := by decide +kernel
  have hrecord : Tree.openClause.OfRecord :=
    ⟨openRecord, 0, _, hclause, List.mem_singleton_self _⟩
  have hrecord' : Tree.noun.OfRecord := ⟨nounRecord, 0, _, hnoun, List.mem_singleton_self _⟩
  have hself : Tree.openClause.SelfAddressed := by decide
  have hself' : Tree.noun.SelfAddressed := by decide
  let x₁ := Tree.openClause.spliced .noun (nounRule [] .right) 0 0 1
  let x₂ := x₁.spliced .noun (nounRule [] .left) 0 0 0
  have h₁ : Tree.openClause.Attaches .noun (0, nounRule [] .right) x₁ := by decide +kernel
  have h₂ : x₁.Attaches .noun (0, nounRule [] .left) x₂ := by decide +kernel
  have hgrows : Tree.openClause.Grows openHistory x₂ := by
    have hsize : x₁.nodes.size = 3 := Tree.size_spliced
    have hrun := (Tree.Grows.start.step h₁).step h₂
    rw [hsize] at hrun
    exact hrun
  obtain ⟨n, hn, hchildren⟩ :
      ∃ n, x₂.node 0 = .ok n ∧ n.children = [.node 3, .node 1, .node 2] := by decide +kernel
  refine ⟨hrecord, hself, hrecord', hself', ?_, x₂, n, hgrows, hn, hchildren, ?_⟩
  · obtain ⟨xs, hxs, hx⟩ := h₁.listed
    exact ⟨xs, hxs, List.ne_nil_of_mem hx, rule_order_is_surface_order.1 _ _ _ _ _ .start hxs⟩
  · refine rule_order_is_surface_order.2 _ _ _ hrecord hself ?_ hgrows 0 n hn
    intro e he
    rcases List.mem_cons.1 he with rfl | he
    · exact ⟨hrecord', hself'⟩
    · rw [List.mem_singleton.1 he]
      exact ⟨hrecord', hself'⟩

end SpineGrammar
