import SpineGrammar.Proofs.Enumeration
import SpineGrammar.Proofs.Soundness

/-!
# One insertion, node by node

`d.Attaches c site x` says that `attach` lists `x` for the rule and the node of `site`. A node of
the host stays under its id: its children change if the argument is put there, and its rules if the
served rule was its own. A node of the candidate comes under a raised id. Nothing else hangs below
the root of the result.
-/

namespace SpineGrammar

/-- A node of a host after the root of an argument was put before the `i`-th child of `target` for
    the rule `r` of `owner`, where `id` is the node's own id. -/
def Node.afterInsertion (n : Node) (id : Nat) (r : Rule) (owner target i root : Nat) : Node :=
  { n with
    rules := if id = owner then n.rules.filter (· ≠ r) else n.rules
    children := if id = target then n.children.insertIdx i (.node root) else n.children }

namespace Node

variable {n : Node} {r : Rule} {id k owner target i root size : Nat}

/-- What the rules of a node are after an insertion: those that were not served. -/
theorem mem_rules_afterInsertion {r' : Rule} :
    r' ∈ (n.afterInsertion id r owner target i root).rules ↔
      r' ∈ n.rules ∧ (id, r') ≠ (owner, r) := by
  unfold afterInsertion
  by_cases hid : id = owner
  · simp [hid]
  · simp [hid]

/-- The stamp on the root of a copy leaves its predicate. -/
theorem predicate_copied :
    (if k = root then (n.shift size).stamp r else n.shift size).predicate = n.predicate := by
  split <;> rfl

/-- The stamp on the root of a copy leaves its rules. -/
theorem rules_copied :
    (if k = root then (n.shift size).stamp r else n.shift size).rules = n.rules := by
  split <;> rfl

end Node

namespace Tree

/-- `d.Attaches c site x`: among the results of inserting `c` into `d`, `x` is the one for the rule
    `site.2` of the node `site.1`. -/
structure Attaches (d c : Tree) (site : Nat × Rule) (x : Tree) : Prop where
  listed : ∃ xs, d.attach c = .ok xs ∧ x ∈ xs
  /-- The rule is to be served next at its node and accepts the candidate. -/
  waiting : ∃ label places, c.label = .ok label ∧ d.breadthFirst = .ok places ∧
    site ∈ openSites places label
  result : d.splice site.1 site.2 c = .ok (some x)

theorem attaches_iff {d c : Tree} {site : Nat × Rule} {x : Tree} : d.Attaches c site x ↔
    (∃ xs, d.attach c = .ok xs ∧ x ∈ xs) ∧
    (∃ label, c.label = .ok label ∧
      ∃ places, d.breadthFirst = .ok places ∧ site ∈ openSites places label) ∧
    d.splice site.1 site.2 c = .ok (some x) := by
  constructor
  · rintro ⟨hlisted, ⟨label, places, hlabel, hplaces, hsite⟩, hresult⟩
    exact ⟨hlisted, ⟨label, hlabel, places, hplaces, hsite⟩, hresult⟩
  · rintro ⟨hlisted, ⟨label, hlabel, places, hplaces, hsite⟩, hresult⟩
    exact ⟨hlisted, ⟨label, places, hlabel, hplaces, hsite⟩, hresult⟩

instance (d c : Tree) (site : Nat × Rule) (x : Tree) : Decidable (d.Attaches c site x) :=
  decidable_of_iff' _ attaches_iff

variable {d c x : Tree} {b g s m : Branch} {a : Address} {r : Rule} {i owner target : Nat}
  {site : Nat × Rule}

/-- Each result of an insertion is the one for some site. -/
theorem exists_attaches_of_mem {xs : List Tree} (hxs : d.attach c = .ok xs) (hx : x ∈ xs) :
    ∃ site, d.Attaches c site x := by
  obtain ⟨label, hlabel, h⟩ := bind_eq_ok_iff.1 hxs
  obtain ⟨places, hplaces, h⟩ := bind_eq_ok_iff.1 h
  obtain ⟨results, hresults, h⟩ := bind_eq_ok_iff.1 h
  obtain rfl := Except.ok.inj h
  obtain ⟨result, hmem, rfl⟩ := List.mem_filterMap.1 hx
  obtain ⟨site, hsite, hsplice⟩ := exists_of_mem_mapM hresults hmem
  exact ⟨site, ⟨_, hxs, hx⟩, ⟨label, places, hlabel, hplaces, hsite⟩, hsplice⟩

/-- What a splice that has a result has done. -/
theorem exists_of_splice_eq_some (h : d.splice owner r c = .ok (some x)) :
    ∃ target gap host i, d.resolve owner r.target = .ok (some target) ∧ d.gap owner = .ok gap ∧
      d.node target = .ok host ∧
      gap.position? host.children.length r.slot r.order = some i ∧
      x = d.spliced c r owner target i := by
  obtain ⟨place, hplace, h⟩ := bind_eq_ok_iff.1 h
  cases place with
  | none => cases h
  | some target =>
    obtain ⟨gap, hgap, h⟩ := bind_eq_ok_iff.1 h
    obtain ⟨host, hhost, h⟩ := bind_eq_ok_iff.1 h
    cases hposition : gap.position? host.children.length r.slot r.order with
    | none =>
      simp only [hposition] at h
      cases h
    | some i =>
      simp only [hposition] at h
      obtain ⟨⟨grown, root⟩, hgraft, h⟩ := bind_eq_ok_iff.1 h
      obtain ⟨stamped, hstamped, h⟩ := bind_eq_ok_iff.1 h
      obtain ⟨inserted, hinserted, h⟩ := bind_eq_ok_iff.1 h
      obtain ⟨taken, htaken, h⟩ := bind_eq_ok_iff.1 h
      obtain rfl := Option.some.inj (Except.ok.inj h)
      have hgrown : (d.extend c.nodes, c.root + d.nodes.size) = (grown, root) := by
        unfold graft at hgraft
        split at hgraft
        · exact Except.ok.inj hgraft
        · cases hgraft
      obtain ⟨rfl, rfl⟩ := Prod.mk.inj hgrown
      obtain ⟨_, rfl⟩ := update_eq_ok_iff.1 hstamped
      obtain ⟨_, rfl⟩ := update_eq_ok_iff.1 hinserted
      obtain ⟨_, rfl⟩ := update_eq_ok_iff.1 htaken
      exact ⟨target, gap, host, i, hplace, hgap, hhost, hposition, rfl⟩

/-! ## The nodes of a result -/

/-- A node of the host stays under its id. -/
theorem node_spliced_of_lt {id : Nat} {n : Node} (hn : d.node id = .ok n) :
    (d.spliced c r owner target i).node id =
      .ok (n.afterInsertion id r owner target i (c.root + d.nodes.size)) := by
  have hlt := lt_of_node_eq_ok hn
  have hkept : (d.extend c.nodes).nodes[id]? = some n :=
    node_eq_ok_iff.1 ((node_extend_of_lt d c.nodes hlt).trans hn)
  have hroot : c.root + d.nodes.size ≠ id := by omega
  rw [node_eq_ok_iff, spliced]
  simp only [Array.getElem?_modify, if_neg hroot, hkept]
  -- The host's node is touched by the last two changes only.
  by_cases htarget : target = id <;> by_cases howner : owner = id <;>
    simp [htarget, howner, eq_comm (a := id), Node.afterInsertion, Node.insertChild,
      Node.consumeRule]

/-- A node of the candidate comes under an id raised by the size of the host's table. -/
theorem node_spliced_add (howner : owner < d.nodes.size) (htarget : target < d.nodes.size)
    {k : Nat} {n : Node} (hn : c.node k = .ok n) :
    (d.spliced c r owner target i).node (k + d.nodes.size) =
      .ok (if k = c.root then (n.shift d.nodes.size).stamp r else n.shift d.nodes.size) := by
  have hcopied : (d.extend c.nodes).nodes[k + d.nodes.size]? = some (n.shift d.nodes.size) :=
    node_eq_ok_iff.1 (node_extend_shift hn)
  have howner' : owner ≠ k + d.nodes.size := by omega
  have htarget' : target ≠ k + d.nodes.size := by omega
  rw [node_eq_ok_iff, spliced]
  simp only [Array.getElem?_modify, if_neg howner', if_neg htarget', hcopied]
  by_cases hroot : k = c.root
  · simp [hroot]
  · simp [hroot, Ne.symm hroot]

/-! ## Sites and served rules -/

/-- The results are those of the foremost accepting rules that are served. -/
theorem Denotes.attaches_iff (hd : d.Denotes b) (hdsound : d.Sound) (hc : c.Denotes g)
    (hcsound : c.Sound) {id : Nat} : d.Attaches c (id, r) x ↔
      ∃ a s m i, s.id = id ∧ b.Serves a r s m i ∧ r.Foremost s.data.rules ∧
        r.pos = g.data.label ∧ x = d.spliced c r s.id m.id i := by
  have hattach := attach_eq_ok hdsound.toIsTree hdsound.slotted hd hcsound.toIsTree hc
  have hplaces := breadthFirst_eq_ok (hd.unfold_eq hdsound.toIsTree)
  constructor
  · rintro ⟨_, ⟨label, places, hlabel, hplaces', hsite⟩, hsplice⟩
    obtain rfl := Except.ok.inj (hlabel.symm.trans hc.label_eq)
    obtain rfl := Except.ok.inj (hplaces'.symm.trans hplaces)
    obtain ⟨p, hp, hsite⟩ := List.mem_flatMap.1 hsite
    obtain ⟨r', hr, heq⟩ := List.mem_map.1 hsite
    obtain ⟨rfl, rfl⟩ := Prod.mk.inj heq
    obtain ⟨hr, hpos⟩ := List.mem_filter.1 hr
    obtain ⟨a, s, hs, rfl⟩ := Branch.mem_breadthFirst.1 hp
    have hserved := splice_eq_served hd.toHolds hdsound.slotted hcsound.toIsTree hs r'
    rw [hsplice, Except.ok.injEq] at hserved
    obtain ⟨s', m, i, h, hx⟩ := served_eq_some_iff.1 hserved.symm
    obtain rfl : s = s' := Option.some.inj (hs.symm.trans h.owner)
    exact ⟨a, s, m, i, rfl, h, mem_applicable.1 hr, of_decide_eq_true hpos, hx⟩
  · rintro ⟨a, s, m, i, rfl, h, hforemost, hpos, rfl⟩
    have hturn : (⟨s.id, a, s.data⟩, r) ∈ b.turns g.data.label :=
      Branch.mem_turns.2 ⟨a, s, h.owner, rfl, hforemost, hpos⟩
    refine ⟨⟨_, hattach, ?_⟩, ⟨_, _, hc.label_eq, hplaces, ?_⟩, ?_⟩
    · exact List.mem_filterMap.2 ⟨_, hturn, served_eq_some_iff.2 ⟨s, m, i, h, rfl⟩⟩
    · refine List.mem_flatMap.2 ⟨_, Branch.mem_breadthFirst.2 ⟨a, s, h.owner, rfl⟩, ?_⟩
      refine List.mem_map.2 ⟨r, List.mem_filter.2 ⟨mem_applicable.2 hforemost, ?_⟩, rfl⟩
      exact decide_eq_true hpos
    · exact splice_eq_some hd.toHolds hdsound.slotted hcsound.toIsTree h

/-- Below the root of a result hang the nodes of the host and, under raised ids, those of the
    candidate. -/
theorem reaches_spliced_iff (hd : d.Denotes b) (hc : c.Denotes g) (h : b.Serves a r s m i)
    {id : Nat} : (d.spliced c r s.id m.id i).Reaches id ↔
      d.Reaches id ∨ ∃ k, c.Reaches k ∧ k + d.nodes.size = id := by
  have hids := h.ids_perm (x := g.argument d.nodes.size r) hd.ids_nodup
  rw [(spliced_denotes hd hc h).reaches_iff, hids.mem_iff, List.mem_append, hd.reaches_iff,
    Branch.ids_argument, List.mem_map]
  simp only [hc.reaches_iff]

/-! ## What a result has -/

/-- A result is the host with the argument at the rule's target. -/
theorem Attaches.exists_spliced (h : d.Attaches c (owner, r) x) :
    ∃ target i, d.resolve owner r.target = .ok (some target) ∧ owner < d.nodes.size ∧
      target < d.nodes.size ∧ x = d.spliced c r owner target i := by
  obtain ⟨target, gap, host, i, htarget, hgap, hhost, _, hx⟩ := exists_of_splice_eq_some h.result
  obtain ⟨n, hn, _⟩ := bind_eq_ok_iff.1 hgap
  exact ⟨target, i, htarget, lt_of_node_eq_ok hn, lt_of_node_eq_ok hhost, hx⟩

/-- Behind a result are a branch of the host, one of the candidate, and a foremost rule that is
    served. -/
theorem Attaches.exists_serves (h : d.Attaches c (owner, r) x) (hd : d.Sound) (hc : c.Sound) :
    ∃ b g a s m i, d.Denotes b ∧ c.Denotes g ∧ s.id = owner ∧ b.Serves a r s m i ∧
      r.Foremost s.data.rules ∧ x = d.spliced c r s.id m.id i := by
  obtain ⟨b, _, hb⟩ := hd.exists_denotes
  obtain ⟨g, _, hg⟩ := hc.exists_denotes
  obtain ⟨a, s, m, i, hid, hserves, hforemost, _, hx⟩ := (hb.attaches_iff hd hg hc).1 h
  exact ⟨b, g, a, s, m, i, hb, hg, hid, hserves, hforemost, hx⟩

/-- A result of inserting a sound tree into a sound tree is sound. -/
theorem Attaches.sound (h : d.Attaches c site x) (hd : d.Sound) (hc : c.Sound) : x.Sound := by
  obtain ⟨b, g, a, s, m, i, hb, hg, _, hserves, _, rfl⟩ := h.exists_serves hd hc
  exact hd.spliced hc hb hg hserves

theorem Attaches.foremost (h : d.Attaches c (owner, r) x) (hd : d.Sound) (hc : c.Sound) :
    ∃ n, d.node owner = .ok n ∧ r.Foremost n.rules := by
  obtain ⟨b, g, a, s, m, i, hb, _, rfl, hserves, hforemost, _⟩ := h.exists_serves hd hc
  exact ⟨s.data, (hb.at? hserves.owner).node, hforemost⟩

/-- A path leads to the owner of the served rule. -/
theorem Attaches.reaches_owner (h : d.Attaches c (owner, r) x) (hd : d.Sound) (hc : c.Sound) :
    d.Reaches owner := by
  obtain ⟨b, g, a, s, m, i, hb, _, rfl, hserves, _⟩ := h.exists_serves hd hc
  exact hb.reaches_iff.2 (Branch.id_mem_of_at? hserves.owner)

theorem Attaches.reaches_iff (h : d.Attaches c site x) (hd : d.Sound) (hc : c.Sound) {id : Nat} :
    x.Reaches id ↔ d.Reaches id ∨ ∃ k, c.Reaches k ∧ k + d.nodes.size = id := by
  obtain ⟨b, g, a, s, m, i, hb, hg, _, hserves, _, rfl⟩ := h.exists_serves hd hc
  exact reaches_spliced_iff hb hg hserves

/-- What becomes of a node of the host if the rule acts on its owner. -/
theorem Attaches.node_host (h : d.Attaches c (owner, r) x) (hself : r.target = []) {id : Nat}
    {n : Node} (hn : d.node id = .ok n) : ∃ i, x.node id =
      .ok (n.afterInsertion id r owner owner i (c.root + d.nodes.size)) := by
  obtain ⟨target, i, htarget, _, _, rfl⟩ := h.exists_spliced
  obtain rfl : owner = target := by simpa [hself, resolve] using htarget
  exact ⟨i, node_spliced_of_lt hn⟩

/-- What becomes of a node of the candidate. -/
theorem Attaches.node_candidate (h : d.Attaches c (owner, r) x) {k : Nat} {n : Node}
    (hn : c.node k = .ok n) : x.node (k + d.nodes.size) =
      .ok (if k = c.root then (n.shift d.nodes.size).stamp r else n.shift d.nodes.size) := by
  obtain ⟨target, i, _, howner, htarget, rfl⟩ := h.exists_spliced
  exact node_spliced_add howner htarget hn

/-- Where a node of a result comes from, if the rule acts on its owner. -/
theorem Attaches.node_cases (h : d.Attaches c (owner, r) x) (hd : d.Sound) (hc : c.Sound)
    (hself : r.target = []) {id : Nat} {n : Node} (hid : x.Reaches id) (hn : x.node id = .ok n) :
    (∃ old i, d.Reaches id ∧ d.node id = .ok old ∧
      n = old.afterInsertion id r owner owner i (c.root + d.nodes.size)) ∨
    ∃ k old, c.Reaches k ∧ c.node k = .ok old ∧ id = k + d.nodes.size ∧
      n = if k = c.root then (old.shift d.nodes.size).stamp r else old.shift d.nodes.size := by
  rcases (h.reaches_iff hd hc).1 hid with hid | ⟨k, hk, rfl⟩
  · obtain ⟨old, _, hold⟩ := hd.toIsTree.exists_node_of_reaches hid
    obtain ⟨i, hnew⟩ := h.node_host hself hold
    exact .inl ⟨old, i, hid, hold, Except.ok.inj (hn.symm.trans hnew)⟩
  · obtain ⟨old, _, hold⟩ := hc.toIsTree.exists_node_of_reaches hk
    exact .inr ⟨k, old, hk, hold, rfl, Except.ok.inj (hn.symm.trans (h.node_candidate hold))⟩

end Tree

end SpineGrammar
