import SpineGrammar.Proofs.Insertion

/-!
# The frame of an insertion

What an insertion writes, and what it leaves alone. The table of a result is the host's table with a
copy of the candidate's behind it, read from the host's root. In the host's part the target has one
child more and the owner one rule less; in the copy the root is told its role and its slot, and all
child ids are raised. Every other field of every node, reached or not, is what it was.
-/

namespace SpineGrammar

/-! ## One node -/

/-- `KeptNode owner r target root id n n'`: the node `n`, which has the id `id` in the host, is `n'`
    after the rule `r` of `owner` has put the node `root` below `target`. -/
structure KeptNode (owner : Nat) (r : Rule) (target root id : Nat) (n n' : Node) : Prop where
  /-- Besides its children only its rules can change. -/
  features : n'.toFeatures = { n.toFeatures with rules := n'.rules }
  owner_rules : id = owner →
    ∃ before after, n.rules = before ++ r :: after ∧ n'.rules = before ++ after
  other_rules : id ≠ owner → n'.rules = n.rules
  target_children : id = target →
    ∃ before after, n.children = before ++ after ∧ n'.children = before ++ .node root :: after
  other_children : id ≠ target → n'.children = n.children

/-- `CopiedNode offset r k root n n'`: the node `n`, which has the id `k` in the candidate with the
    root `root`, is copied to `n'` behind `offset` nodes for the rule `r`. -/
structure CopiedNode (offset : Nat) (r : Rule) (k root : Nat) (n n' : Node) : Prop where
  children : n'.children = n.children.map (Child.shift offset)
  root_features : k = root → n'.toFeatures =
    { n.toFeatures with role := r.role, attached := true, attachedSlot := some r.slot }
  inner_features : k ≠ root → n'.toFeatures = n.toFeatures

/-- A rule is taken out of a list without repetition at its one place. -/
theorem exists_filter_ne {rules : List Rule} {r : Rule} (hrules : rules.Nodup) (hr : r ∈ rules) :
    ∃ before after, rules = before ++ r :: after ∧ rules.filter (· ≠ r) = before ++ after := by
  obtain ⟨before, after, _, hsplit, herase⟩ := List.exists_erase_eq hr
  refine ⟨before, after, hsplit, ?_⟩
  rw [← herase, hrules.erase_eq_filter]
  refine List.filter_congr fun p _ => ?_
  rw [Bool.eq_iff_iff, decide_eq_true_iff, bne_iff_ne]

namespace Node

variable {n : Node} {r : Rule} {id owner target i root k offset : Nat}

theorem keptNode_afterInsertion (hrules : n.rules.Nodup) (hr : id = owner → r ∈ n.rules)
    (hi : id = target → i ≤ n.children.length) :
    KeptNode owner r target root id n (n.afterInsertion id r owner target i root) where
  features := rfl
  owner_rules := by
    intro howner
    obtain ⟨before, after, hsplit, hfilter⟩ := exists_filter_ne hrules (hr howner)
    refine ⟨before, after, hsplit, ?_⟩
    rw [afterInsertion, if_pos howner, hfilter]
  other_rules := fun hother => if_neg hother
  target_children := by
    intro htarget
    obtain ⟨before, after, hsplit, _, hinsert⟩ :=
      List.exists_of_modifyTailIdx (List.cons (Child.node root)) (hi htarget)
    exact ⟨before, after, hsplit, (if_pos htarget).trans hinsert⟩
  other_children := fun hother => if_neg hother

theorem copiedNode_shift : CopiedNode offset r k root n
    (if k = root then (n.shift offset).stamp r else n.shift offset) where
  children := by split <;> rfl
  root_features := by
    intro hroot
    rw [if_pos hroot]
    rfl
  inner_features := by
    intro hinner
    rw [if_neg hinner]
    rfl

end Node

/-! ## The whole table -/

/-- `d.Frame c x owner r target`: the table of `x` is that of `d` with a copy of `c` behind it, but
    for what serving the rule `r` of `owner` at `target` writes. -/
structure Tree.Frame (d c x : Tree) (owner : Nat) (r : Rule) (target : Nat) : Prop where
  root : x.root = d.root
  size : x.nodes.size = d.nodes.size + c.nodes.size
  host : ∀ id n, d.node id = .ok n →
    ∃ n', x.node id = .ok n' ∧ KeptNode owner r target (c.root + d.nodes.size) id n n'
  copy : ∀ k n, c.node k = .ok n →
    ∃ n', x.node (k + d.nodes.size) = .ok n' ∧ CopiedNode d.nodes.size r k c.root n n'

/-- **Frame**: the table of a result is the host's with a copy of the candidate's behind it. The
    target has the copied root as one child more, the owner has lost the served rule, and the copied
    root plays the rule's role in its slot; nothing else is written. -/
theorem insertion_frame {d c x : Tree} {owner : Nat} {r : Rule} (hd : d.Sound) (hc : c.Sound)
    (h : d.Attaches c (owner, r) x) :
    ∃ target, d.resolve owner r.target = .ok (some target) ∧ d.Frame c x owner r target := by
  obtain ⟨n, hn, hforemost⟩ := h.foremost hd hc
  obtain ⟨target, gap, host, i, htarget, _, hhost, hi, hx⟩ :=
    Tree.exists_of_splice_eq_some h.result
  have howner : owner < d.nodes.size := Tree.lt_of_node_eq_ok hn
  refine ⟨target, htarget, by rw [hx, Tree.root_spliced], by rw [hx, Tree.size_spliced], ?_, ?_⟩
  · intro id m hm
    refine ⟨_, by rw [hx]; exact Tree.node_spliced_of_lt hm, ?_⟩
    -- The owner holds the served rule, and the place is within the target's children.
    apply Node.keptNode_afterInsertion (hd.rules_nodup m (Tree.mem_of_node_eq_ok hm))
    · rintro rfl
      obtain rfl := Except.ok.inj (hn.symm.trans hm)
      exact hforemost.mem
    · rintro rfl
      obtain rfl := Except.ok.inj (hhost.symm.trans hm)
      exact SpineGap.position?_le hi
  · intro k m hm
    refine ⟨_, ?_, Node.copiedNode_shift⟩
    rw [hx]
    exact Tree.node_spliced_add howner (Tree.lt_of_node_eq_ok hhost) hm

/-- The clause takes its object: its second rule goes, its verb phrase gets a child behind the verb,
    and the copied noun phrase knows its side. -/
theorem insertion_frame_clause :
    Tree.clause.Sound ∧ Tree.noun.Sound ∧
    Tree.clause.Attaches .noun (0, nounRule [0] .right) .objectClause ∧
    Tree.clause.resolve 0 (nounRule [0] .right).target = .ok (some 1) ∧
    Tree.clause.Frame .noun .objectClause 0 (nounRule [0] .right) 1 := by
  have hclause : Tree.clause.Sound := by decide
  have hnoun : Tree.noun.Sound := by decide
  have hattaches : Tree.clause.Attaches .noun (0, nounRule [0] .right) .objectClause := by
    decide +kernel
  have hresolve : Tree.clause.resolve 0 (nounRule [0] .right).target = .ok (some 1) := by
    decide +kernel
  obtain ⟨target, htarget, hframe⟩ := insertion_frame hclause hnoun hattaches
  obtain rfl := Option.some.inj (Except.ok.inj (hresolve.symm.trans htarget))
  exact ⟨hclause, hnoun, hattaches, hresolve, hframe⟩

end SpineGrammar
