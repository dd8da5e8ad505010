import SpineGrammar.Proofs.SideCounts

/-!
# Insertions at different sites commute

An insertion for a rule that acts on its owner changes one node: the argument comes to the end of a
side, and the rule goes. Told on the phrases of a branch this is a change of how that node is read,
and the readings of two such changes do not depend on their order. A rule that is still waiting
stays foremost, and the children on its side stay as many, so it is served later as well.
-/

namespace SpineGrammar

/-! ## Reading a branch -/

/-- What phrase a node gives, from its id, its features and the phrases of its items. -/
abbrev Reading : Type := Nat → Features → List Phrase → Phrase

/-- Reads a node as what it is. -/
def Reading.plain : Reading := fun _ f parts => .node f parts

/-- Features without a rule. -/
def Features.without (f : Features) (r : Rule) : Features :=
  { f with rules := f.rules.filter (· ≠ r) }

theorem Features.without_comm (f : Features) (r r' : Rule) :
    (f.without r).without r' = (f.without r').without r := by
  simp only [without, List.filter_filter, Bool.and_comm]

/-- Reads the node with the id `owner` as if `q` had been put in as the argument of its rule `r`. -/
def Reading.serving (on : Reading) (owner : Nat) (r : Rule) (q : Phrase) : Reading :=
  fun id f parts =>
    if id = owner then
      on id (f.without r) (parts.insertIdx (r.slot.edge r.order parts.length) q)
    else on id f parts

/-- The phrases of a forest in a reading. -/
def Forest.render (on : Reading) : Forest → List Phrase
  | nil => []
  | leaf word rest => .word word :: rest.render on
  | node id data below rest => on id data.toFeatures (below.render on) :: rest.render on

/-- The phrase of a branch in a reading. -/
def Branch.render (on : Reading) (b : Branch) : Phrase :=
  on b.id b.data.toFeatures (b.below.render on)

theorem Forest.render_plain (f : Forest) : f.render .plain = f.phrases := by
  induction f with
  | nil => rfl
  | leaf word rest ih => rw [render, phrases, ih]
  | node id data below rest ihbelow ihrest =>
    rw [render, phrases, ihbelow, ihrest]
    rfl

theorem Branch.render_plain (b : Branch) : b.render .plain = b.phrase := by
  rw [render, Forest.render_plain]
  rfl

theorem Forest.length_render (on : Reading) (f : Forest) :
    (f.render on).length = f.phrases.length := by
  induction f with
  | nil => rfl
  | leaf word rest ih => rw [render, phrases, List.length_cons, List.length_cons, ih]
  | node id data below rest _ ih => rw [render, phrases, List.length_cons, List.length_cons, ih]

theorem Forest.render_insertIdx (on : Reading) (c : Branch) (f : Forest) (i : Nat) :
    (f.insertIdx c i).render on = (f.render on).insertIdx i (c.render on) := by
  induction f generalizing i with
  | nil => cases i <;> rfl
  | leaf word rest ih => cases i with
    | zero => rfl
    | succ i => rw [insertIdx, render, render, List.insertIdx_succ_cons, ih]
  | node id data below rest _ ih => cases i with
    | zero => rfl
    | succ i => rw [insertIdx, render, render, List.insertIdx_succ_cons, ih]

/-- Readings that agree on the nodes of a forest give the same phrases. -/
theorem Forest.render_congr {on on' : Reading} {f : Forest}
    (h : ∀ j c a s, f.branch? j = some c → c.at? a = some s → ∀ parts : List Phrase,
      parts.length = s.below.phrases.length →
        on s.id s.data.toFeatures parts = on' s.id s.data.toFeatures parts) :
    f.render on = f.render on' := by
  induction f with
  | nil => rfl
  | leaf word rest ih =>
    rw [render, render, ih fun j c a s hc hs => h (j + 1) c a s hc hs]
  | node id data below rest ihbelow ihrest =>
    have hbelow : below.render on = below.render on' := by
      apply ihbelow
      intro j c a s hc hs
      exact h 0 ⟨id, data, below⟩ (j :: a) s rfl (Branch.at?_cons_eq_some_iff.2 ⟨c, hc, hs⟩)
    have hrest := ihrest fun j c a s hc hs => h (j + 1) c a s hc hs
    have hnode := h 0 ⟨id, data, below⟩ [] _ rfl rfl (below.render on') (below.length_render on')
    rw [render, render, hbelow, hrest, hnode]

theorem Branch.render_congr {on on' : Reading} {b : Branch}
    (h : ∀ a s, b.at? a = some s → ∀ parts : List Phrase,
      parts.length = s.below.phrases.length →
        on s.id s.data.toFeatures parts = on' s.id s.data.toFeatures parts) :
    b.render on = b.render on' := by
  have hbelow : b.below.render on = b.below.render on' := by
    apply Forest.render_congr
    intro j c a s hc hs
    exact h (j :: a) s (at?_cons_eq_some_iff.2 ⟨c, hc, hs⟩)
  rw [render, render, hbelow, h [] b rfl _ (b.below.length_render on')]

/-- A change of one node is a change of how it is read. -/
theorem Forest.render_editAt {on : Reading} {m : Nat} {f : Node → Node} {h : Forest → Forest}
    {k : Features → Features} {l : List Phrase → List Phrase}
    (hf : ∀ n, (f n).toFeatures = k n.toFeatures)
    (hh : ∀ g : Forest, (h g).render on = l (g.render on)) (g : Forest) :
    (g.editAt m f h).render on = g.render fun id ft ps =>
      if id = m then on id (k ft) (l ps) else on id ft ps := by
  induction g with
  | nil => rfl
  | leaf word rest ih => rw [editAt, render, render, ih]
  | node id data below rest ihbelow ihrest =>
    rw [editAt, render]
    by_cases hid : id = m
    · rw [if_pos hid, if_pos hid, render, hf, hh, ihbelow, ihrest]
    · rw [if_neg hid, if_neg hid, render, ihbelow, ihrest]

theorem Branch.render_editAt {on : Reading} {m : Nat} {f : Node → Node} {h : Forest → Forest}
    {k : Features → Features} {l : List Phrase → List Phrase}
    (hf : ∀ n, (f n).toFeatures = k n.toFeatures)
    (hh : ∀ g : Forest, (h g).render on = l (g.render on)) (b : Branch) :
    (b.editAt m f h).render on = b.render fun id ft ps =>
      if id = m then on id (k ft) (l ps) else on id ft ps := by
  have hbelow := Forest.render_editAt (m := m) hf hh b.below
  by_cases hid : b.id = m
  · rw [editAt, if_pos hid]
    show on b.id (f b.data).toFeatures _ = if b.id = m then _ else _
    rw [if_pos hid, hf, hh, hbelow]
  · rw [editAt, if_neg hid]
    show on b.id b.data.toFeatures _ = if b.id = m then _ else _
    rw [if_neg hid, hbelow]

namespace Branch

variable {b s x : Branch} {a : Address} {r : Rule} {i : Nat}

/-- Where no node has the owner's id, serving its rule changes nothing. -/
theorem render_serving_of_notMem {owner : Nat} (h : owner ∉ b.ids) (on : Reading) (r : Rule)
    (q : Phrase) : b.render (on.serving owner r q) = b.render on := by
  apply render_congr
  intro a s hs parts _
  have hne : s.id ≠ owner := fun heq => h (heq ▸ id_mem_of_at? hs)
  rw [Reading.serving, if_neg hne]

/-- The result of serving a rule that acts on its owner, read as a branch in which it is served. -/
theorem Serves.render_inserted (h : b.Serves a r s s i) (hids : b.ids.Nodup) (hnew : s.id ∉ x.ids)
    (on : Reading) : (b.inserted r s.id s.id i x).render on =
      b.render (on.serving s.id r (x.render on)) := by
  have hposition := (SpineGap.position?_eq_some_iff.1 h.position).2
  have hgrown (on : Reading) : (b.grown s.id i x).render on =
      b.render fun id ft ps =>
        if id = s.id then on id ft (ps.insertIdx i (x.render on)) else on id ft ps :=
    render_editAt (f := (·.insertChild i (.node x.id))) (h := (·.insertIdx x i))
      (k := fun ft => ft) (fun _ => rfl) (fun g => g.render_insertIdx on x i) b
  have htaken : (b.inserted r s.id s.id i x).render on = (b.grown s.id i x).render fun id ft ps =>
        if id = s.id then on id (ft.without r) ps else on id ft ps :=
    render_editAt (l := fun ps => ps) (fun _ => rfl) (fun _ => rfl) (b.grown s.id i x)
  -- The argument has no node with the owner's id.
  have hargument : (x.render fun id ft ps =>
      if id = s.id then on id (ft.without r) ps else on id ft ps) = x.render on := by
    apply render_congr
    intro a' s' hs' parts _
    have hne : s'.id ≠ s.id := fun heq => hnew (heq ▸ id_mem_of_at? hs')
    rw [if_neg hne]
  rw [htaken, hgrown, hargument]
  apply render_congr
  intro a' s' hs' parts hparts
  by_cases hid : s'.id = s.id
  · -- The owner stands at one address only, so its items are as many as those of `s`.
    obtain rfl := nodup_ids_iff.1 hids a' a s' s hs' h.owner hid
    obtain rfl := Option.some.inj (hs'.symm.trans h.owner)
    simp [Reading.serving, hposition, hparts]
  · simp [Reading.serving, hid]

end Branch

/-! ## Serving two rules -/

/-- Arguments on the two sides of one node come to the same places in either order. -/
theorem insertIdx_edge_comm {slot slot' : Slot} (hslots : slot ≠ slot') {order order' : Nat}
    (parts : List Phrase) (p q : Phrase) (horder : slot.edge order parts.length ≤ parts.length)
    (horder' : slot'.edge order' parts.length ≤ parts.length) :
    (parts.insertIdx (slot.edge order parts.length) p).insertIdx
        (slot'.edge order' (parts.length + 1)) q =
      (parts.insertIdx (slot'.edge order' parts.length) q).insertIdx
        (slot.edge order (parts.length + 1)) p := by
  cases slot with
  | left => cases slot' with
    | left => exact absurd rfl hslots
    | right => exact List.insertIdx_comm p q horder (Nat.le_refl _)
  | right => cases slot' with
    | left => exact (List.insertIdx_comm q p horder' (Nat.le_refl _)).symm
    | right => exact absurd rfl hslots

/-- Two rules that are both served where they act are served in either order alike. -/
theorem Branch.Serves.render_comm {b s s' : Branch} {a a' : Address} {r r' : Rule} {i i' : Nat}
    (h : b.Serves a r s s i) (h' : b.Serves a' r' s' s' i') (hids : b.ids.Nodup)
    (hslots : s.id = s'.id → r.slot ≠ r'.slot) (q q' : Phrase) (on : Reading) :
    b.render ((on.serving s'.id r' q').serving s.id r q) =
      b.render ((on.serving s.id r q).serving s'.id r' q') := by
  apply render_congr
  intro a₀ s₀ hs₀ parts hparts
  by_cases hid : s₀.id = s.id
  · by_cases hid' : s₀.id = s'.id
    · obtain rfl := nodup_ids_iff.1 hids a₀ a s₀ s hs₀ h.owner hid
      obtain rfl := Option.some.inj (hs₀.symm.trans h.owner)
      obtain rfl := nodup_ids_iff.1 hids a₀ a' s₀ s' hs₀ h'.owner hid'
      obtain rfl := Option.some.inj (hs₀.symm.trans h'.owner)
      have hle := h.position_le
      have hle' := h'.position_le
      rw [(SpineGap.position?_eq_some_iff.1 h.position).2,
        ← hparts] at hle
      rw [(SpineGap.position?_eq_some_iff.1 h'.position).2,
        ← hparts] at hle'
      have hcomm := insertIdx_edge_comm (hslots hid') parts q q' hle hle'
      simp [Reading.serving, List.length_insertIdx_of_le_length hle,
        List.length_insertIdx_of_le_length hle', hcomm,
        Features.without_comm _ r r']
    · simp [Reading.serving, hid, hid ▸ hid']
  · by_cases hid' : s₀.id = s'.id
    · simp [Reading.serving, hid', hid' ▸ hid]
    · simp [Reading.serving, hid, hid']

namespace Tree

variable {d c c' x x' y : Tree} {b g g' : Branch} {n n' : Nat} {r r' : Rule}

/-- A rule that acts on its owner leads to the branch in which its argument was put there. -/
theorem Attaches.exists_inserted (h : d.Attaches c (n, r) x) (hd : d.Sound) (hc : c.Sound)
    (hb : d.Denotes b) (hg : c.Denotes g) (hself : r.target = []) :
    ∃ a s i, s.id = n ∧ b.Serves a r s s i ∧ r.Foremost s.data.rules ∧
      x.Denotes (b.inserted r s.id s.id i (g.argument d.nodes.size r)) := by
  obtain ⟨a, s, m, i, hid, hserves, hforemost, _, rfl⟩ := (hb.attaches_iff hd hg hc).1 h
  obtain rfl := hserves.target_eq hself
  exact ⟨a, m, i, hid, hserves, hforemost, spliced_denotes hb hg hserves⟩

/-- The phrase after two insertions is that of the first tree with both rules served. -/
theorem Attaches.phrase_twice (h : d.Attaches c (n, r) x) (h' : x.Attaches c' (n', r') y)
    (hd : d.Sound) (hc : c.Sound) (hc' : c'.Sound) (hb : d.Denotes b) (hg : c.Denotes g)
    (hg' : c'.Denotes g') (hself : r.target = []) (hself' : r'.target = []) (hn' : n' ∈ b.ids) :
    y.phrase = .ok (b.render ((Reading.plain.serving n' r' (g'.phrase.stamped r')).serving n r
      (g.phrase.stamped r))) := by
  have hx := h.sound hd hc
  obtain ⟨a, s, i, rfl, hserves, _, hxb⟩ := h.exists_inserted hd hc hb hg hself
  obtain ⟨a', s', i', rfl, hserves', _, hyb⟩ := h'.exists_inserted hx hc' hxb hg' hself'
  have hnew : s.id ∉ (g.argument d.nodes.size r).ids :=
    hb.notMem_argument r (Branch.id_mem_of_at? hserves.owner)
  have hnew' : s'.id ∉ (g'.argument x.nodes.size r').ids :=
    hxb.notMem_argument r' (Branch.id_mem_of_at? hserves'.owner)
  have hplain : (g'.argument x.nodes.size r').render .plain = g'.phrase.stamped r' := by
    rw [Branch.render_plain, Branch.phrase_argument]
  -- The first argument has no node of the second rule's owner.
  have hfirst (on : Reading) (q : Phrase) :
      (g.argument d.nodes.size r).render (on.serving s'.id r' q) =
        (g.argument d.nodes.size r).render on :=
    Branch.render_serving_of_notMem (hb.notMem_argument r hn') on r' q
  rw [hyb.phrase_eq (h'.sound hx hc').toIsTree, ← Branch.render_plain,
    hserves'.render_inserted hxb.ids_nodup hnew', hplain,
    hserves.render_inserted hb.ids_nodup hnew, hfirst, Branch.render_plain,
    Branch.phrase_argument]

/-- Two rules that wait at one node and act on it wait on different sides. -/
theorem Attaches.slot_ne (h : d.Attaches c (n, r) x) (h' : d.Attaches c' (n, r') x') (hd : d.Sound)
    (hc : c.Sound) (hc' : c'.Sound) (hself : r.target = []) (hself' : r'.target = [])
    (hne : r ≠ r') : r.slot ≠ r'.slot := by
  intro hslot
  obtain ⟨m, hm, hforemost⟩ := h.foremost hd hc
  obtain ⟨m', hm', hforemost'⟩ := h'.foremost hd hc'
  obtain rfl := Except.ok.inj (hm.symm.trans hm')
  have hsite : r.site = r'.site := by
    show (r.target, r.slot) = (r'.target, r'.slot)
    rw [hself, hself', hslot]
  exact hne (hforemost.eq_of_site_eq hforemost' hsite)

/-- A waiting rule that acts on its owner is served after another one was. -/
theorem Attaches.exists_later (h : d.Attaches c (n, r) x) (h' : d.Attaches c' (n', r') x')
    (hd : d.Sound) (hc : c.Sound) (hc' : c'.Sound) (hself : r.target = [])
    (hself' : r'.target = []) (hne : (n, r) ≠ (n', r')) : ∃ y, x.Attaches c' (n', r') y := by
  obtain ⟨hreaches, ⟨m, hm, hforemost⟩, hlabel, hcount⟩ :=
    (exists_attaches_iff hd hc' hself').1 ⟨x', h'⟩
  have hcount' := h.sideCount hd hc hself hcount
  obtain ⟨i, hnode⟩ := h.node_host hself hm
  -- At one node the two rules wait on different sides, so the count of the other side stays.
  have hslots : n' = n → r'.slot ≠ r.slot := by
    rintro rfl
    exact h'.slot_ne h hd hc' hc hself' hself fun heq => hne (by rw [heq])
  refine (exists_attaches_iff (h.sound hd hc) hc' hself').2 ⟨?_, ⟨_, hnode, ?_⟩, hlabel, ?_⟩
  · exact (h.reaches_iff hd hc).2 (.inl hreaches)
  · rw [Node.afterInsertion]
    by_cases hn : n' = n
    · -- At one node the served rule goes, and the waiting one is another.
      have hrules : r' ≠ r := fun heq => hne (by rw [hn, heq])
      simp only [if_pos hn]
      exact hforemost.filter (decide_eq_true hrules)
    · simp only [if_neg hn]
      exact hforemost
  · have hother : ¬ (n' = n ∧ r'.slot = r.slot) := by
      rintro ⟨hn, hslot⟩
      exact hslots hn hslot
    rw [hcount', if_neg hother, Nat.add_zero]

end Tree

/-- **Commutation**: two rules that act on their owners and can both be served can be served in
    either order, and both orders end with the same phrase. -/
theorem attachments_commute {d c₁ c₂ x₁ x₂ : Tree} {n₁ n₂ : Nat} {r₁ r₂ : Rule} (hd : d.Sound)
    (hc₁ : c₁.Sound) (hc₂ : c₂.Sound) (hself₁ : r₁.target = []) (hself₂ : r₂.target = [])
    (hne : (n₁, r₁) ≠ (n₂, r₂)) (h₁ : d.Attaches c₁ (n₁, r₁) x₁)
    (h₂ : d.Attaches c₂ (n₂, r₂) x₂) :
    ∃ y₁₂ y₂₁ p, x₁.Attaches c₂ (n₂, r₂) y₁₂ ∧ x₂.Attaches c₁ (n₁, r₁) y₂₁ ∧
      y₁₂.phrase = .ok p ∧ y₂₁.phrase = .ok p := by
  obtain ⟨b, _, hb⟩ := hd.exists_denotes
  obtain ⟨g₁, _, hg₁⟩ := hc₁.exists_denotes
  obtain ⟨g₂, _, hg₂⟩ := hc₂.exists_denotes
  obtain ⟨y₁₂, hy₁₂⟩ := h₁.exists_later h₂ hd hc₁ hc₂ hself₁ hself₂ hne
  obtain ⟨y₂₁, hy₂₁⟩ := h₂.exists_later h₁ hd hc₂ hc₁ hself₂ hself₁ hne.symm
  have hslots : n₁ = n₂ → r₁.slot ≠ r₂.slot := by
    rintro rfl
    exact h₁.slot_ne h₂ hd hc₁ hc₂ hself₁ hself₂ fun heq => hne (by rw [heq])
  obtain ⟨a₁, s₁, i₁, rfl, hserves₁, _⟩ := h₁.exists_inserted hd hc₁ hb hg₁ hself₁
  obtain ⟨a₂, s₂, i₂, rfl, hserves₂, _⟩ := h₂.exists_inserted hd hc₂ hb hg₂ hself₂
  -- Either order ends with the reading of `b` in which both rules are served.
  have hphrase₁₂ := h₁.phrase_twice hy₁₂ hd hc₁ hc₂ hb hg₁ hg₂ hself₁ hself₂
    (Branch.id_mem_of_at? hserves₂.owner)
  have hphrase₂₁ := h₂.phrase_twice hy₂₁ hd hc₂ hc₁ hb hg₂ hg₁ hself₂ hself₁
    (Branch.id_mem_of_at? hserves₁.owner)
  rw [hserves₁.render_comm hserves₂ hb.ids_nodup hslots] at hphrase₁₂
  exact ⟨y₁₂, y₂₁, _, hy₁₂, hy₂₁, hphrase₁₂, hphrase₂₁⟩

/-- Both sides of one node, and a node and one below it. -/
theorem attachments_commute_openClause :
    Tree.openClause.Sound ∧ Tree.noun.Sound ∧
    (∃ x₁ x₂, Tree.openClause.Attaches .noun (0, nounRule [] .left) x₁ ∧
      Tree.openClause.Attaches .noun (0, nounRule [] .right) x₂ ∧
      ∃ y₁₂ y₂₁ p, x₁.Attaches .noun (0, nounRule [] .right) y₁₂ ∧
        x₂.Attaches .noun (0, nounRule [] .left) y₂₁ ∧ y₁₂.phrase = .ok p ∧ y₂₁.phrase = .ok p) ∧
    ∃ x₁ x₂, Tree.openClause.Attaches .noun (0, nounRule [] .left) x₁ ∧
      Tree.openClause.Attaches .noun (1, nounRule [] .right) x₂ ∧
      ∃ y₁₂ y₂₁ p, x₁.Attaches .noun (1, nounRule [] .right) y₁₂ ∧
        x₂.Attaches .noun (0, nounRule [] .left) y₂₁ ∧ y₁₂.phrase = .ok p ∧ y₂₁.phrase = .ok p := by
  have hclause : Tree.openClause.Sound := by decide
  have hnoun : Tree.noun.Sound := by decide
  have hleft : Tree.openClause.Attaches .noun (0, nounRule [] .left)
      (Tree.openClause.spliced .noun (nounRule [] .left) 0 0 0) := by decide +kernel
  have hright : Tree.openClause.Attaches .noun (0, nounRule [] .right)
      (Tree.openClause.spliced .noun (nounRule [] .right) 0 0 1) := by decide +kernel
  have hbelow : Tree.openClause.Attaches .noun (1, nounRule [] .right)
      (Tree.openClause.spliced .noun (nounRule [] .right) 1 1 1) := by decide +kernel
  refine ⟨hclause, hnoun, ⟨_, _, hleft, hright, ?_⟩, ⟨_, _, hleft, hbelow, ?_⟩⟩
  · exact attachments_commute hclause hnoun hnoun rfl rfl (by decide) hleft hright
  · exact attachments_commute hclause hnoun hnoun rfl rfl (by decide) hleft hbelow

end SpineGrammar
