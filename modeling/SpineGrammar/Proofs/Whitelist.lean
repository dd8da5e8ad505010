import SpineGrammar.Proofs.Loading
import SpineGrammar.Proofs.Progress

/-!
# Whitelists bound derivations

A whitelist looks at trees of records one by one: their labels, and the labels of all their rules,
to be served next or later. An insertion brings no label and no rule that neither tree had, so what
holds of the trees of a grammar holds of all derivations over it.
-/

namespace SpineGrammar

/-- Whether the labels of the nodes below the root, and the labels that their rules accept, lie in a
    set. -/
def Tree.Within (t : Tree) (allowed : SortedSet String) : Prop :=
  ∀ id n, t.Reaches id → t.node id = .ok n →
    n.label ∈ allowed ∧ ∀ r ∈ n.rules, r.pos ∈ allowed

theorem SortedSet.subset_iff {s t : SortedSet String} :
    s.subset t = true ↔ ∀ x ∈ s, x ∈ t := by
  unfold subset
  simp only [List.all_eq_true, List.contains_iff_mem]
  rfl

namespace Tree

variable {d c x t : Tree} {b : Branch} {allowed : SortedSet String} {site : Nat × Rule}

/-! ## Labels that are listed -/

/-- The nodes that depth-first order lists are those below the root. -/
theorem Denotes.forall_mem_depthFirst_iff (hb : t.Denotes b) {P : Node → Prop} :
    (∀ p ∈ b.depthFirst, P p.data) ↔ ∀ id n, t.Reaches id → t.node id = .ok n → P n := by
  constructor
  · intro h id n hid hn
    obtain ⟨a, s, hs, rfl⟩ := Branch.mem_ids.1 (hb.reaches_iff.1 hid)
    obtain rfl := Except.ok.inj ((hb.at? hs).node.symm.trans hn)
    exact h ⟨s.id, a, s.data⟩ (Branch.mem_depthFirst.2 ⟨a, s, hs, rfl⟩)
  · intro h p hp
    obtain ⟨a, s, hs, rfl⟩ := Branch.mem_depthFirst.1 hp
    exact h s.id s.data (hb.reaches_iff.2 (Branch.id_mem_of_at? hs)) (hb.at? hs).node

/-- The set of labels of a tree is within a set just if the tree is. -/
theorem Sound.labelSet_subset_iff (h : t.Sound) {labels : SortedSet String}
    (hlabels : t.labelSet = .ok labels) : labels.subset allowed = true ↔ t.Within allowed := by
  obtain ⟨b, hunfold, hb⟩ := h.exists_denotes
  rw [labelSet, depthFirst_eq_ok hunfold, ok_bind, pure_eq_ok, Except.ok.injEq] at hlabels
  subst hlabels
  have hnodes := hb.forall_mem_depthFirst_iff
    (P := fun n => n.label ∈ allowed ∧ ∀ r ∈ n.rules, r.pos ∈ allowed)
  rw [Within, ← hnodes, SortedSet.subset_iff]
  simp only [SortedSet.mem_ofList, List.mem_flatMap, List.mem_cons, List.mem_map]
  constructor
  · intro hall p hp
    refine ⟨hall _ ⟨p, hp, .inl rfl⟩, ?_⟩
    intro r hr
    exact hall _ ⟨p, hp, .inr ⟨r, hr, rfl⟩⟩
  · intro hall label hlabel
    obtain ⟨p, hp, hlabel⟩ := hlabel
    rcases hlabel with rfl | ⟨r, hr, rfl⟩
    · exact (hall p hp).1
    · exact (hall p hp).2 r hr

/-- A tree waits for labels that its rules accept. -/
theorem Sound.openLabels_subset (h : t.Sound) (hwithin : t.Within allowed)
    {labels : SortedSet String} (hlabels : t.openLabels = .ok labels) :
    ∀ label ∈ labels, label ∈ allowed := by
  obtain ⟨b, hunfold, hb⟩ := h.exists_denotes
  rw [openLabels, applicableRules, depthFirst_eq_ok hunfold, ok_bind, pure_eq_ok, ok_bind,
    pure_eq_ok, Except.ok.injEq] at hlabels
  subst hlabels
  have hnodes := hb.forall_mem_depthFirst_iff
    (P := fun n => n.label ∈ allowed ∧ ∀ r ∈ n.rules, r.pos ∈ allowed)
  intro label hlabel
  rw [SortedSet.mem_ofList] at hlabel
  obtain ⟨r, hr, rfl⟩ := List.mem_map.1 hlabel
  obtain ⟨p, hp, hr⟩ := List.mem_flatMap.1 hr
  exact (hnodes.2 hwithin p hp).2 r (mem_applicable.1 hr).mem

/-! ## Insertions -/

/-- The step: a node of a result has the label of a node of one of the two trees, and no other
    rules. -/
theorem Attaches.within (h : d.Attaches c site x) (hd : d.Sound) (hc : c.Sound)
    (hdwithin : d.Within allowed) (hcwithin : c.Within allowed) : x.Within allowed := by
  obtain ⟨owner, r⟩ := site
  obtain ⟨target, i, _, howner, htarget, rfl⟩ := h.exists_spliced
  intro id n hid hn
  rcases (h.reaches_iff hd hc).1 hid with hid | ⟨k, hk, rfl⟩
  · -- A node of the host keeps its label, and its rules but for the one that was served.
    obtain ⟨old, _, hold⟩ := hd.toIsTree.exists_node_of_reaches hid
    obtain rfl := Except.ok.inj (hn.symm.trans (node_spliced_of_lt hold))
    obtain ⟨hlabel, hrules⟩ := hdwithin id old hid hold
    refine ⟨hlabel, ?_⟩
    intro r' hr'
    exact hrules r' (Node.mem_rules_afterInsertion.1 hr').1
  · -- A node of the candidate is copied; the stamp on its root is no label and no rule.
    obtain ⟨old, _, hold⟩ := hc.toIsTree.exists_node_of_reaches hk
    obtain rfl := Except.ok.inj (hn.symm.trans (node_spliced_add howner htarget hold))
    obtain ⟨hlabel, hrules⟩ := hcwithin k old hk hold
    refine ⟨?_, ?_⟩
    · have hsame : (if k = c.root then (old.shift d.nodes.size).stamp r
          else old.shift d.nodes.size).label = old.label := by
        split <;> rfl
      rw [hsame]
      exact hlabel
    · rw [Node.rules_copied]
      exact hrules

end Tree

/-! ## Derivations -/

namespace Grammar

variable {config : Config} {m : Matcher} {records : List TreeRecord} {g : Grammar}
  {allowed : SortedSet String}

/-- The trees that pass a whitelist are within it. -/
theorem within_of_mem (hallowed : config.whitelist = some allowed)
    (h : ofRecords records config m = .ok g) {t : Tree} (ht : t ∈ g.trees) :
    t.Sound ∧ t.Within allowed := by
  obtain ⟨hsound, patterns, hpasses⟩ := passes_of_mem h ht
  refine ⟨hsound, ?_⟩
  obtain ⟨labels, hlabels, hpasses⟩ := bind_eq_ok_iff.1 hpasses
  split at hpasses
  · cases hpasses
  · next hallows =>
    have hsubset : labels.subset allowed = true := by
      simpa [Config.allows, hallowed] using hallows
    exact (hsound.labelSet_subset_iff hlabels).1 hsubset

end Grammar

/-- The run: over sound trees within a set every derivation is sound and within it. -/
theorem RunFrom.within {s₀ s : State} {calls : List Call} {allowed : SortedSet String}
    (h : RunFrom s₀ calls s) (hs₀ : ∀ t, s₀.tree = some t → t.Sound ∧ t.Within allowed)
    (hcalls : ∀ call ∈ calls, call.action.tree.Sound ∧ call.action.tree.Within allowed) :
    ∀ t, s.tree = some t → t.Sound ∧ t.Within allowed := by
  refine h.preserves (P := fun t => t.Sound ∧ t.Within allowed) ?_ hs₀ hcalls
  intro d c xs x hd hc hxs hx
  obtain ⟨site, hattaches⟩ := Tree.exists_attaches_of_mem hxs hx
  exact ⟨hattaches.sound hd.1 hc.1, hattaches.within hd.1 hc.1 hd.2 hc.2⟩

/-- **Whitelist**: over a grammar that was built from records with a whitelist, whatever is started
    and inserted by position, the labels of the nodes of the derivation and the labels that its
    rules accept are in the whitelist, and so are the labels that it waits for. -/
theorem whitelist_bounds_runs {records : List TreeRecord} {config : Config} {m : Matcher}
    {allowed : SortedSet String} (hallowed : config.whitelist = some allowed) {g : Grammar}
    (hg : Grammar.ofRecords records config m = .ok g) {calls : List Call} {s : State}
    (hrun : Run g calls s) (hcalls : ∀ call ∈ calls, ∃ i, call.selection = .index i) :
    (∀ t, s.tree = some t → t.Within allowed ∧
      ∃ labels, t.labelSet = .ok labels ∧ ∀ label ∈ labels, label ∈ allowed) ∧
    ∃ labels, s.openLabels = .ok labels ∧ ∀ label ∈ labels, label ∈ allowed := by
  have htrees : ∀ t ∈ g.trees, t.Sound ∧ t.Within allowed :=
    fun t ht => Grammar.within_of_mem hallowed hg ht
  have hrunFrom := run_iff_runFrom.1 hrun
  have hall : ∀ t, s.tree = some t → t.Sound ∧ t.Within allowed := by
    refine hrunFrom.within (fun t ht => nomatch ht) ?_
    intro call hcall
    -- A call by position brings no tree of its own.
    rcases hrunFrom.tree_mem hcall with hown | hmem
    · obtain ⟨i, hi⟩ := hcalls call hcall
      rw [hi] at hown
      cases hown
    · exact htrees _ hmem
  constructor
  · intro t ht
    obtain ⟨hsound, hwithin⟩ := hall t ht
    obtain ⟨b, hunfold, _⟩ := hsound.exists_denotes
    obtain ⟨labels, hlabels⟩ : ∃ labels, t.labelSet = .ok labels :=
      ⟨_, by rw [Tree.labelSet, Tree.depthFirst_eq_ok hunfold]; rfl⟩
    have hsubset := (hsound.labelSet_subset_iff hlabels).2 hwithin
    exact ⟨hwithin, labels, hlabels, SortedSet.subset_iff.1 hsubset⟩
  · cases hs : s.tree with
    | none =>
      refine ⟨.empty, by simp only [State.openLabels, hs]; rfl, ?_⟩
      intro label hlabel
      cases hlabel
    | some t =>
      obtain ⟨hsound, hwithin⟩ := hall t hs
      obtain ⟨labels, hlabels⟩ := hsound.exists_openLabels
      refine ⟨labels, by simp only [State.openLabels, hs, hlabels], ?_⟩
      exact hsound.openLabels_subset hwithin hlabels

/-- The record of a clause that waits for a noun phrase, at its clause or at its verb phrase as the
    address says. -/
def clauseRecord (target : Address) : TreeRecord where
  spine := "(S (VP"
  word := some "sleep"
  lexicon := none
  treeType := none
  predicate := none
  rolesetId := none
  argCount := none
  treeId := none
  rules := [{
    kind := .attach
    pos := "NP"
    target := .indices target
    slot := some 0
    order := some 0
    role := none
    description := none
    attachCounts := .empty }]

/-- The tree of the clause that waits for its subject. -/
def Tree.sleepClause : Tree where
  nodes := #[.plain "S" [nounRule [] .left] [.node 1], .plain "VP" [] [.leaf "sleep"]]
  root := 0

/-- The grammar of the clause and the noun phrase. -/
def sleepGrammar : Grammar := ⟨[("S", .sleepClause), ("NP", .noun)], "S"⟩

/-- The whitelist drops the record of an adverb phrase, and the clause with its subject is within
    it. -/
theorem whitelist_bounds_runs_clause :
    Grammar.ofRecords [clauseRecord [], { nounRecord with spine := "(ADVP" }, nounRecord]
        { Config.default with whitelist := some (.ofList ["S", "VP", "NP"]) } = .ok sleepGrammar ∧
    ∃ calls s t, Run sleepGrammar calls s ∧ calls.map (·.selection) = [.index 0, .index 0] ∧
      s.tree = some t ∧ t.Within (.ofList ["S", "VP", "NP"]) := by
  have hgrammar : Grammar.ofRecords
      [clauseRecord [], { nounRecord with spine := "(ADVP" }, nounRecord]
      { Config.default with whitelist := some (.ofList ["S", "VP", "NP"]) } = .ok sleepGrammar := by
    decide +kernel
  have hstart : Run sleepGrammar [⟨.index 0, .initial .sleepClause⟩]
      ⟨some .sleepClause, sleepGrammar⟩ :=
    .step .start ⟨by decide +kernel, 0, by decide +kernel⟩
  have hrun : Run sleepGrammar
      [⟨.index 0, .initial .sleepClause⟩, ⟨.index 0, .substitute .noun⟩]
      ⟨some (Tree.sleepClause.spliced .noun (nounRule [] .left) 0 0 0), sleepGrammar⟩ :=
    .step hstart ⟨by decide +kernel, 0, by decide +kernel⟩
  have hbounds := whitelist_bounds_runs rfl hgrammar hrun (by simp)
  exact ⟨hgrammar, _, _, _, hrun, rfl, rfl, (hbounds.1 _ rfl).1⟩

end SpineGrammar
