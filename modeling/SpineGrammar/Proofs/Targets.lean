import SpineGrammar.Proofs.Insertion

/-!
# Targets of open rules

An insertion moves the later children of its target to the right. An address that steps to one of
these children names another node afterwards, and every other address keeps its node. So an open
rule is redirected just if its address runs through the target, to the place of the insertion or
behind it; a rule that acts on its owner never is.
-/

namespace SpineGrammar

namespace Tree

/-- `t.StaysBefore start a target i`: following `a` from `start` never leads from `target` to its
    `i`-th child or a later one. -/
def StaysBefore (t : Tree) (start : Nat) (a : Address) (target i : Nat) : Prop :=
  ∀ p j rest, a = p ++ j :: rest → t.resolve start p = .ok (some target) → j < i

variable {d c x : Tree} {r : Rule} {owner target i start goal : Nat} {a : Address}

/-- An address that stays before the insertion keeps its node. -/
theorem resolve_spliced (h : d.resolve start a = .ok (some goal))
    (hbefore : d.StaysBefore start a target i) :
    (d.spliced c r owner target i).resolve start a = .ok (some goal) := by
  induction a generalizing start with
  | nil =>
    rw [resolve] at h ⊢
    exact h
  | cons j a ih =>
    obtain ⟨n, id, hn, hchild, hrest⟩ := resolve_cons_eq_some_iff.1 h
    refine resolve_cons_eq_some_iff.2 ⟨_, id, node_spliced_of_lt hn, ?_, ih hrest ?_⟩
    · -- Of the nodes on the way only the target has other children now.
      show (if start = target then _ else n.children)[j]? = some (.node id)
      by_cases htarget : start = target
      · have hj : j < i := hbefore [] j a rfl (by rw [htarget]; rfl)
        rw [if_pos htarget, List.getElem?_insertIdx_of_lt hj]
        exact hchild
      · rw [if_neg htarget]
        exact hchild
    · intro p k rest heq hp
      refine hbefore (j :: p) k rest (by rw [heq]; rfl) ?_
      exact resolve_cons_eq_some_iff.2 ⟨n, id, hn, hchild, hp⟩

/-- No node of a tree lies below itself. -/
theorem IsTree.eq_nil_of_resolve_self (h : d.IsTree) (hreaches : d.Reaches target)
    (hself : d.resolve target a = .ok (some target)) : a = [] := by
  obtain ⟨path, hpath⟩ := hreaches
  have hlong : d.nodeAt (path ++ a) = .ok (some target) := by
    rw [nodeAt, resolve_append_of_eq_some hpath]
    exact hself
  exact List.append_right_eq_self.1 (h.path_unique _ _ _ hlong hpath)

/-- A path to the target stays before the insertion, and so does a path from one of its children. -/
theorem IsTree.staysBefore_of_resolve (h : d.IsTree) (hreaches : d.Reaches target)
    (ha : d.resolve start a = .ok (some target)) : d.StaysBefore start a target i := by
  intro p j rest heq hp
  rw [heq, resolve_append_of_eq_some hp] at ha
  cases h.eq_nil_of_resolve_self hreaches ha

/-- A child behind the insertion is one place further on. -/
theorem IsTree.resolve_spliced_succ (h : d.IsTree) (hreaches : d.Reaches target) {j : Nat}
    {rest : Address} (hgoal : d.resolve target (j :: rest) = .ok (some goal)) (hj : i ≤ j) :
    (d.spliced c r owner target i).resolve target ((j + 1) :: rest) = .ok (some goal) := by
  obtain ⟨n, id, hn, hchild, hrest⟩ := resolve_cons_eq_some_iff.1 hgoal
  refine resolve_cons_eq_some_iff.2 ⟨_, id, node_spliced_of_lt hn, ?_, resolve_spliced hrest ?_⟩
  · show (if target = target then _ else n.children)[j + 1]? = some (.node id)
    rw [if_pos rfl, List.getElem?_insertIdx_of_gt (by omega)]
    exact hchild
  · -- The target is not below its own child.
    intro p k rest' _ hp
    have hself : d.resolve target (j :: p) = .ok (some target) :=
      resolve_cons_eq_some_iff.2 ⟨n, id, hn, hchild, hp⟩
    cases h.eq_nil_of_resolve_self hreaches hself

/-- An address keeps its node if and only if it stays before the insertion. -/
theorem IsTree.resolve_spliced_iff (h : d.IsTree) (hx : (d.spliced c r owner target i).IsTree)
    (hreaches : d.Reaches target) (hreaches' : (d.spliced c r owner target i).Reaches target)
    (hgoal : d.resolve start a = .ok (some goal)) :
    (d.spliced c r owner target i).resolve start a = .ok (some goal) ↔
      d.StaysBefore start a target i := by
  refine ⟨?_, resolve_spliced hgoal⟩
  intro hsame p j rest heq hp
  rw [heq, resolve_append_of_eq_some hp] at hgoal
  rw [heq, resolve_append_of_eq_some (resolve_spliced hp (h.staysBefore_of_resolve hreaches hp))]
    at hsame
  by_contra hj
  -- Two places below the target would hold one node.
  have hmoved : (d.spliced c r owner target i).resolve target ((j + 1) :: rest) =
      .ok (some goal) := h.resolve_spliced_succ hreaches hgoal (Nat.le_of_not_lt hj)
  obtain ⟨path, hpath⟩ := hreaches'
  have htwice : path ++ j :: rest = path ++ (j + 1) :: rest := by
    refine hx.path_unique _ _ goal ?_ ?_
    · rw [nodeAt, resolve_append_of_eq_some hpath]
      exact hsame
    · rw [nodeAt, resolve_append_of_eq_some hpath]
      exact hmoved
  simp at htwice

end Tree

/-- **Targets**: an insertion puts its argument before the `i`-th child of the served rule's target
    `t`. Every other rule stays open at its node, and its address keeps its node if and only if it
    does not step from `t` to the `i`-th child or a later one. -/
theorem open_rule_keeps_target_iff {d c x : Tree} {owner : Nat} {r₀ : Rule} (hd : d.Sound)
    (hc : c.Sound) (h : d.Attaches c (owner, r₀) x) :
    ∃ t i host host', d.resolve owner r₀.target = .ok (some t) ∧ d.node t = .ok host ∧
      x.node t = .ok host' ∧ i ≤ host.children.length ∧
      host'.children = host.children.insertIdx i (.node (c.root + d.nodes.size)) ∧
      ∀ n m r, d.node n = .ok m → r ∈ m.rules → (n, r) ≠ (owner, r₀) →
        (∃ m', x.node n = .ok m' ∧ r ∈ m'.rules) ∧
        ∀ goal, d.resolve n r.target = .ok (some goal) →
          (x.resolve n r.target = .ok (some goal) ↔ d.StaysBefore n r.target t i) := by
  have hx := h.sound hd hc
  have howner := h.reaches_owner hd hc
  obtain ⟨t, gap, host, i, htarget, _, hhost, hi, rfl⟩ :=
    Tree.exists_of_splice_eq_some h.result
  have hreaches : d.Reaches t := by
    obtain ⟨path, hpath⟩ := howner
    refine ⟨path ++ r₀.target, ?_⟩
    rw [Tree.nodeAt, Tree.resolve_append_of_eq_some hpath]
    exact htarget
  refine ⟨t, i, host, _, htarget, hhost, Tree.node_spliced_of_lt hhost,
    SpineGap.position?_le hi, ?_, ?_⟩
  · rw [Node.afterInsertion, if_pos rfl]
  · intro n m r hm hr hother
    refine ⟨⟨_, Tree.node_spliced_of_lt hm, ?_⟩, ?_⟩
    · rw [Node.afterInsertion]
      by_cases hn : n = owner
      · have hne : r ≠ r₀ := fun heq => hother (by rw [hn, heq])
        simp only [if_pos hn]
        exact List.mem_filter.2 ⟨hr, decide_eq_true hne⟩
      · simp only [if_neg hn]
        exact hr
    · intro goal hgoal
      exact hd.toIsTree.resolve_spliced_iff hx.toIsTree hreaches
        ((h.reaches_iff hd hc).2 (.inl hreaches)) hgoal

/-- With the subject of the clause in place, the address of its other rule names the subject and no
    longer the verb phrase. -/
theorem not_forall_open_rule_keeps_target :
    ¬ ∀ (d c x : Tree) (site : Nat × Rule), d.Sound → c.Sound → d.Attaches c site x →
      ∀ n m r goal, d.node n = .ok m → r ∈ m.rules → (n, r) ≠ site →
        d.resolve n r.target = .ok (some goal) → x.resolve n r.target = .ok (some goal) := by
  intro h
  have hattaches : Tree.clause.Attaches .noun (0, nounRule [] .left) .subjectClause := by
    decide +kernel
  have hkept := h .clause .noun .subjectClause _ (by decide) (by decide) hattaches 0 _
    (nounRule [0] .right) 1 rfl (by decide) (by decide) (by decide +kernel)
  have hmoved : Tree.subjectClause.resolve 0 (nounRule [0] .right).target = .ok (some 2) := by
    decide +kernel
  rw [hmoved] at hkept
  cases hkept

theorem open_rule_keeps_target_iff_clause :
    Tree.clause.Sound ∧ Tree.noun.Sound ∧
    Tree.clause.Attaches .noun (0, nounRule [] .left) .subjectClause ∧
    ∃ t i host host', Tree.clause.resolve 0 (nounRule [] .left).target = .ok (some t) ∧
      Tree.clause.node t = .ok host ∧ Tree.subjectClause.node t = .ok host' ∧
      i ≤ host.children.length ∧
      host'.children =
        host.children.insertIdx i (.node (Tree.noun.root + Tree.clause.nodes.size)) ∧
      ∀ n m r, Tree.clause.node n = .ok m → r ∈ m.rules → (n, r) ≠ (0, nounRule [] .left) →
        (∃ m', Tree.subjectClause.node n = .ok m' ∧ r ∈ m'.rules) ∧
        ∀ goal, Tree.clause.resolve n r.target = .ok (some goal) →
          (Tree.subjectClause.resolve n r.target = .ok (some goal) ↔
            Tree.clause.StaysBefore n r.target t i) := by
  have hclause : Tree.clause.Sound := by decide
  have hnoun : Tree.noun.Sound := by decide
  have hattaches : Tree.clause.Attaches .noun (0, nounRule [] .left) .subjectClause := by
    decide +kernel
  exact ⟨hclause, hnoun, hattaches, open_rule_keeps_target_iff hclause hnoun hattaches⟩

end SpineGrammar
