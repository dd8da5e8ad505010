import SpineGrammar.Proofs.Refinement
import SpineGrammar.Tree.Frontier

/-!
# Insertion enumerates the legal sites

A node and one of its rules are a legal site for a label if a path leads to the node, the rule is
foremost among its rivals and accepts the label, and as many children as its order says stand on its
side. `attach` has one result for each legal site, by the place of the node in breadth-first order
and then by the first appearance of the rule's site, and no two results have the same phrase.
-/

namespace SpineGrammar

/-! ## Legal sites -/

/-- How many of `count` children stand on a side of the spine. -/
def SpineGap.side (g : SpineGap) (count : Nat) : Slot → Nat
  | .left => (g.sides count).1
  | .right => (g.sides count).2

theorem SpineGap.exists_position?_iff {g : SpineGap} {count order : Nat} {slot : Slot} :
    (∃ i, g.position? count slot order = some i) ↔ g.side count slot = order := by
  cases slot <;> simp [position?, side]

/-- A node and one of its rules for which a tree with the root label `label` can be inserted. -/
structure Tree.Legal (t : Tree) (label : String) (site : Nat × Rule) : Prop where
  reaches : t.Reaches site.1
  foremost : ∃ n, t.node site.1 = .ok n ∧ site.2.Foremost n.rules
  accepts : site.2.pos = label
  turn : ∃ gap m host, t.gap site.1 = .ok gap ∧ t.resolve site.1 site.2.target = .ok (some m) ∧
    t.node m = .ok host ∧ gap.side host.children.length site.2.slot = site.2.order

/-- Sites in order: by the place of the node in the list `places`, and at one node by the first
    appearance of the rule's target and side among the rules. -/
def Tree.Precedes (t : Tree) (places : List Place) (u v : Nat × Rule) : Prop :=
  places.findIdx (·.id = u.1) < places.findIdx (·.id = v.1) ∨
    u.1 = v.1 ∧ ∃ n, t.node u.1 = .ok n ∧
      firstAppearance n.rules u.2.site < firstAppearance n.rules v.2.site

namespace Tree

variable {t d c : Tree} {b g s : Branch} {a : Address} {r : Rule} {label : String}

theorem not_precedes_self {places : List Place} {u : Nat × Rule} : ¬ t.Precedes places u u := by
  rintro (hlt | ⟨_, n, _, hlt⟩)
  · exact Nat.lt_irrefl _ hlt
  · exact Nat.lt_irrefl _ hlt

/-- Legal sites are the foremost accepting rules that are served. -/
theorem Denotes.legal_iff (hd : d.Denotes b) (hslot : d.Slotted) (hs : b.at? a = some s) :
    d.Legal label (s.id, r) ↔
      r.Foremost s.data.rules ∧ r.pos = label ∧ ∃ m i, b.Serves a r s m i := by
  have hheld := hd.at? hs
  constructor
  · rintro ⟨_, ⟨n, hn, hforemost⟩, haccepts, gap, _, host, hgap, hm, hhost, hside⟩
    obtain rfl := Except.ok.inj (hheld.node.symm.trans hn)
    obtain rfl := Except.ok.inj ((hheld.gap hslot).symm.trans hgap)
    obtain ⟨m, htarget, rfl⟩ := hheld.resolve_eq_some_iff.1 hm
    have hmheld := hheld.at? htarget
    obtain rfl := Except.ok.inj (hmheld.node.symm.trans hhost)
    rw [← hmheld.below.length_phrases] at hside
    obtain ⟨i, hi⟩ := SpineGap.exists_position?_iff.2 hside
    exact ⟨hforemost, haccepts, m, i, hs, htarget, hi⟩
  · rintro ⟨hforemost, haccepts, m, i, h⟩
    have hmheld := hheld.at? h.target
    refine ⟨hd.reaches_iff.2 (Branch.id_mem_of_at? hs), ⟨s.data, hheld.node, hforemost⟩, haccepts,
      _, m.id, m.data, hheld.gap hslot, hheld.resolve_eq_some_iff.2 ⟨m, h.target, rfl⟩,
      hmheld.node, ?_⟩
    rw [← hmheld.below.length_phrases]
    exact SpineGap.exists_position?_iff.1 ⟨i, h.position⟩

/-! ## The sites that are served -/

/-- The sites at which `c` is inserted, in the order of the results. -/
def servedSites (d c : Tree) (b : Branch) (label : String) : List (Nat × Rule) :=
  ((b.turns label).filter fun t => (d.served c b t).isSome).map fun t => (t.1.id, t.2)

theorem served_isSome_iff {t : Place × Rule} :
    (d.served c b t).isSome = true ↔ ∃ s m i, b.Serves t.1.address t.2 s m i := by
  rw [Option.isSome_iff_exists]
  simp only [served_eq_some_iff]
  constructor
  · rintro ⟨x, s, m, i, h, _⟩
    exact ⟨s, m, i, h⟩
  · rintro ⟨s, m, i, h⟩
    exact ⟨_, s, m, i, h, rfl⟩

theorem mem_servedSites (hd : d.Denotes b) (hslot : d.Slotted) {site : Nat × Rule} :
    site ∈ d.servedSites c b label ↔ d.Legal label site := by
  rw [servedSites, List.mem_map]
  simp only [List.mem_filter, served_isSome_iff]
  constructor
  · rintro ⟨⟨p, r⟩, ⟨hturn, s', m, i, h⟩, rfl⟩
    obtain ⟨a, s, hs, hplace, hforemost, haccepts⟩ := Branch.mem_turns.1 hturn
    obtain rfl : p = ⟨s.id, a, s.data⟩ := hplace
    obtain rfl : s = s' := Option.some.inj (hs.symm.trans h.owner)
    exact (hd.legal_iff hslot hs).2 ⟨hforemost, haccepts, m, i, h⟩
  · intro h
    obtain ⟨id, r⟩ := site
    obtain ⟨a, s, hs, rfl⟩ := Branch.mem_ids.1 (hd.reaches_iff.1 h.reaches)
    obtain ⟨hforemost, haccepts, m, i, hserves⟩ := (hd.legal_iff hslot hs).1 h
    exact ⟨(⟨s.id, a, s.data⟩, r),
      ⟨Branch.mem_turns.2 ⟨a, s, hs, rfl, hforemost, haccepts⟩, s, m, i, hserves⟩, rfl⟩

end Tree

/-! ## Order and correspondence -/

/-- In a list without repeated ids each place comes where its id first stands. -/
theorem pairwise_findIdx_of_nodup {places : List Place} (h : (places.map (·.id)).Nodup) :
    places.Pairwise fun p q =>
      places.findIdx (·.id = p.id) < places.findIdx (·.id = q.id) := by
  induction places with
  | nil => exact .nil
  | cons first places ih =>
    obtain ⟨hfirst, hplaces⟩ := List.nodup_cons.1 h
    have hskip : ∀ p ∈ places, (first :: places).findIdx (·.id = p.id) =
        places.findIdx (·.id = p.id) + 1 := by
      intro p hp
      have hne : first.id ≠ p.id := fun heq => hfirst (List.mem_map.2 ⟨p, hp, heq.symm⟩)
      simp [List.findIdx_cons, hne]
    rw [List.pairwise_cons]
    refine ⟨?_, ?_⟩
    · intro p hp
      rw [hskip p hp]
      simp [List.findIdx_cons]
    · refine (ih hplaces).imp_of_mem ?_
      intro p q hp hq hlt
      rw [hskip p hp, hskip q hq]
      exact Nat.succ_lt_succ hlt

/-- What a partial function keeps of a list corresponds, one to one and in order, to the elements
    that it is defined at. -/
theorem forall₂_filterMap {α β : Type} {R : α → β → Prop} {f : α → Option β} {l : List α}
    (h : ∀ a ∈ l, ∀ b, f a = some b → R a b) :
    List.Forall₂ R (l.filter fun a => (f a).isSome) (l.filterMap f) := by
  induction l with
  | nil => exact .nil
  | cons a l ih =>
    obtain ⟨ha, hl⟩ := List.forall_mem_cons.1 h
    cases hfa : f a with
    | none =>
      rw [List.filterMap_cons_none hfa, List.filter_cons_of_neg (by simp [hfa])]
      exact ih hl
    | some b =>
      rw [List.filterMap_cons_some hfa, List.filter_cons_of_pos (by simp [hfa])]
      exact .cons (ha b hfa) (ih hl)

namespace Tree

variable {d c : Tree} {b g : Branch} {label : String}

theorem Denotes.nodup_breadthFirst (hd : d.Denotes b) : (b.breadthFirst.map (·.id)).Nodup := by
  rw [(b.breadthFirst_perm.map _).nodup_iff, Branch.map_id_depthFirst]
  exact hd.ids_nodup

/-- Turns come in the order of their owners and, at one owner, of their sites. -/
theorem Denotes.pairwise_turns (hd : d.Denotes b) :
    (b.turns label).Pairwise fun t u =>
      d.Precedes b.breadthFirst (t.1.id, t.2) (u.1.id, u.2) := by
  rw [Branch.turns, List.pairwise_flatMap]
  refine ⟨?_, ?_⟩
  · intro p hp
    obtain ⟨a, s, hs, rfl⟩ := Branch.mem_breadthFirst.1 hp
    rw [List.pairwise_map]
    refine ((pairwise_applicable s.data.rules).filter _).imp ?_
    intro r r' hlt
    exact .inr ⟨rfl, s.data, (hd.at? hs).node, hlt⟩
  · refine (pairwise_findIdx_of_nodup hd.nodup_breadthFirst).imp ?_
    intro p q hlt t ht u hu
    obtain ⟨r, _, rfl⟩ := List.mem_map.1 ht
    obtain ⟨r', _, rfl⟩ := List.mem_map.1 hu
    exact .inl hlt

theorem pairwise_servedSites (hd : d.Denotes b) :
    (d.servedSites c b label).Pairwise (d.Precedes b.breadthFirst) := by
  rw [servedSites, List.pairwise_map]
  exact hd.pairwise_turns.filter _

theorem nodup_servedSites (hd : d.Denotes b) : (d.servedSites c b label).Nodup := by
  refine (pairwise_servedSites hd).imp ?_
  rintro u _ hprecedes rfl
  exact not_precedes_self hprecedes

/-- The results correspond to the served sites, one to one and in order. -/
theorem forall₂_servedSites (hd : d.Denotes b) (hslot : d.Slotted) (hc : c.IsTree) :
    List.Forall₂ (fun site x => d.splice site.1 site.2 c = .ok (some x))
      (d.servedSites c b label) ((b.turns label).filterMap (d.served c b)) := by
  rw [servedSites, List.forall₂_map_left_iff]
  apply forall₂_filterMap
  intro t ht x hx
  obtain ⟨a, s, hs, hplace, _⟩ := Branch.mem_turns.1 ht
  obtain ⟨p, r⟩ := t
  obtain rfl : p = ⟨s.id, a, s.data⟩ := hplace
  rw [splice_eq_served hd.toHolds hslot hc hs r, hx]

end Tree

/-! ## Different results -/

namespace Phrase

variable {p d y c : Phrase} {f : Phrase → Phrase} {a a' : Address} {r : Rule}

theorem at?_modifyAt_self (f : Phrase → Phrase) (a : Address) (p : Phrase) :
    (p.modifyAt f a).at? a = (p.at? a).map f := by
  induction a generalizing p with
  | nil => rw [modifyAt, at?, at?, Option.map_some]
  | cons i a ih => cases p with
    | word w => rw [modifyAt, at?]; rfl
    | node features parts =>
      rw [modifyAt, at?, at?, List.getElem?_modify]
      cases hpart : parts[i]? with
      | none => simp
      | some q => simpa using ih q

/-- A change leaves the rules of the nodes that it is not at, or above, alone. -/
theorem rules_modifyAt_of_not_above (h : ¬ a' <+: a) :
    ((p.modifyAt f a').at? a).map rules = (p.at? a).map rules := by
  induction a' generalizing p a with
  | nil => exact absurd (List.nil_prefix) h
  | cons i a' ih => cases p with
    | word w => rw [modifyAt]
    | node features parts =>
      rw [modifyAt]
      cases a with
      | nil =>
        rw [at?, at?]
        rfl
      | cons j a =>
        rw [at?, at?, List.getElem?_modify]
        by_cases hij : i = j
        · subst hij
          have ha : ¬ a' <+: a := fun hprefix => h (List.cons_prefix_cons.2 ⟨rfl, hprefix⟩)
          cases hpart : parts[i]? with
          | none => simp
          | some q => simpa using ih ha
        · cases hpart : parts[j]? with
          | none => simp
          | some q => simp [hij]

theorem rules_insertPart (i : Nat) (q : Phrase) : (insertPart i q p).rules = p.rules := by
  cases p <;> rfl

theorem rules_withoutRule : (withoutRule r p).rules = p.rules.filter (· ≠ r) := by
  cases p <;> rfl

/-- An insertion at or below a node keeps its rules. -/
theorem rules_insertPart_at (i : Nat) (q : Phrase) (target : Address) :
    ((p.modifyAt (insertPart i q) (a ++ target)).at? a).map rules = (p.at? a).map rules := by
  cases target with
  | nil =>
    rw [List.append_nil, at?_modifyAt_self, Option.map_map]
    congr 1
    funext p
    exact rules_insertPart i q
  | cons j target =>
    apply rules_modifyAt_of_not_above
    intro hprefix
    have hlength := hprefix.length_le
    rw [List.length_append, List.length_cons] at hlength
    omega

theorem exists_of_spliceAt_eq_some (h : d.spliceAt a r c = some y) :
    ∃ i, y = (d.modifyAt (insertPart i (c.stamped r)) (a ++ r.target)).modifyAt
      (withoutRule r) a := by
  simp only [spliceAt, Option.bind_eq_bind, Option.bind_eq_some_iff, Option.pure_def,
    Option.some.injEq] at h
  obtain ⟨_, _, _, _, i, _, heq⟩ := h
  exact ⟨i, heq.symm⟩

/-- After a rewriting step the owner has lost the rule. -/
theorem rules_spliceAt_self (h : d.spliceAt a r c = some y) :
    (y.at? a).map rules = ((d.at? a).map rules).map fun rs => rs.filter (· ≠ r) := by
  obtain ⟨i, rfl⟩ := exists_of_spliceAt_eq_some h
  rw [at?_modifyAt_self, Option.map_map, ← rules_insertPart_at i (c.stamped r) r.target,
    Option.map_map]
  congr 1
  funext p
  exact rules_withoutRule

/-- A rewriting step leaves the rules of nodes alone that are not at its owner or below. -/
theorem rules_spliceAt_of_not_above (h : d.spliceAt a' r c = some y) (ha : ¬ a' <+: a) :
    (y.at? a).map rules = (d.at? a).map rules := by
  obtain ⟨i, rfl⟩ := exists_of_spliceAt_eq_some h
  rw [rules_modifyAt_of_not_above ha, rules_modifyAt_of_not_above]
  exact fun hprefix => ha ((List.prefix_append a' r.target).trans hprefix)

/-- A step at an owner that is not above another owner leaves there the rule that a step at that
    other owner takes. -/
theorem spliceAt_ne_of_not_above {r' : Rule} {o y' : Phrase} (ho : d.at? a = some o)
    (hr : r ∈ o.rules) (ha : ¬ a' <+: a) (h : d.spliceAt a r c = some y)
    (h' : d.spliceAt a' r' c = some y') : y ≠ y' := by
  rintro rfl
  have htaken := rules_spliceAt_self h
  rw [rules_spliceAt_of_not_above h' ha, ho, Option.map_some, Option.map_some,
    Option.some.injEq] at htaken
  -- The step at `a` took `r` from there, the step at `a'` did not.
  rw [htaken] at hr
  exact of_decide_eq_true (List.mem_filter.1 hr).2 rfl

/-- Two rewriting steps at different owners, or for different rules of one owner, have different
    results. -/
theorem spliceAt_ne {r' : Rule} {o o' y' : Phrase} (ho : d.at? a = some o) (hr : r ∈ o.rules)
    (ho' : d.at? a' = some o') (hr' : r' ∈ o'.rules) (hne : (a, r) ≠ (a', r'))
    (h : d.spliceAt a r c = some y) (h' : d.spliceAt a' r' c = some y') : y ≠ y' := by
  by_cases ha : a' <+: a
  · by_cases ha' : a <+: a'
    · -- One owner: only one of the two results still has the rule `r'`.
      obtain rfl : a = a' := ha'.eq_of_length_le ha.length_le
      obtain rfl : o = o' := Option.some.inj (ho.symm.trans ho')
      have hrules : r' ≠ r := fun heq => hne (by rw [heq])
      rintro rfl
      have htaken := (rules_spliceAt_self h).symm.trans (rules_spliceAt_self h')
      rw [ho, Option.map_some, Option.map_some, Option.map_some, Option.some.injEq] at htaken
      have hmem : r' ∈ o.rules.filter (· ≠ r) := List.mem_filter.2 ⟨hr', decide_eq_true hrules⟩
      rw [htaken] at hmem
      exact of_decide_eq_true (List.mem_filter.1 hmem).2 rfl
    · exact (spliceAt_ne_of_not_above ho' hr' ha' h' h).symm
  · exact spliceAt_ne_of_not_above ho hr ha h h'

end Phrase

namespace Tree

variable {d c : Tree} {b g : Branch}

theorem pairwise_ne_turns (hd : d.Denotes b) {label : String} : (b.turns label).Pairwise fun t u =>
    (t.1.address, t.2) ≠ (u.1.address, u.2) := by
  refine hd.pairwise_turns.imp_of_mem ?_
  intro t u ht hu hprecedes heq
  obtain ⟨a, s, hs, hplace, _⟩ := Branch.mem_turns.1 ht
  obtain ⟨a', s', hs', hplace', _⟩ := Branch.mem_turns.1 hu
  rw [hplace, hplace', Prod.mk.injEq] at heq
  obtain ⟨rfl, hrule⟩ := heq
  obtain rfl : s = s' := Option.some.inj (hs.symm.trans hs')
  rw [hplace, hplace', hrule] at hprecedes
  exact not_precedes_self hprecedes

theorem exists_spliceAt_of_served (hdtree : d.IsTree) (hctree : c.IsTree) (hd : d.Denotes b)
    (hc : c.Denotes g) {t : Place × Rule} (ht : t ∈ b.turns g.data.label) {x : Tree}
    (hx : d.served c b t = some x) :
    ∃ y, b.phrase.spliceAt t.1.address t.2 g.phrase = some y ∧ x.phrase = .ok y := by
  have hphrase := phrase_served hdtree hctree hd hc ht
  rw [hx, Option.map_some] at hphrase
  obtain ⟨y, hy, hxy⟩ := Option.map_eq_some_iff.1 hphrase.symm
  exact ⟨y, hy, hxy.symm⟩

/-- No two results have the same phrase. -/
theorem pairwise_phrase_ne (hdtree : d.IsTree) (hctree : c.IsTree) (hd : d.Denotes b)
    (hc : c.Denotes g) : ((b.turns g.data.label).filterMap (d.served c b)).Pairwise fun x y =>
      x.phrase ≠ y.phrase := by
  rw [List.pairwise_filterMap]
  refine (pairwise_ne_turns hd).imp_of_mem ?_
  intro t u ht hu hne x hx y hy
  obtain ⟨x', hx', hxphrase⟩ := exists_spliceAt_of_served hdtree hctree hd hc ht hx
  obtain ⟨y', hy', hyphrase⟩ := exists_spliceAt_of_served hdtree hctree hd hc hu hy
  obtain ⟨a, s, hs, hplace, hforemost, _⟩ := Branch.mem_turns.1 ht
  obtain ⟨a', s', hs', hplace', hforemost', _⟩ := Branch.mem_turns.1 hu
  rw [hplace] at hne hx'
  rw [hplace'] at hne hy'
  rw [hxphrase, hyphrase, Ne, Except.ok.injEq]
  exact Phrase.spliceAt_ne (Branch.at?_phrase hs) hforemost.mem (Branch.at?_phrase hs')
    hforemost'.mem hne hx' hy'

/-- Where something can be inserted its label is waited for. -/
theorem exists_mem_openLabels (hb : d.unfold = .ok b) {label : String} {t : Place × Rule}
    (ht : t ∈ b.turns label) : ∃ labels, d.openLabels = .ok labels ∧ label ∈ labels := by
  have hlabels : d.openLabels = .ok (.ofList
      ((b.depthFirst.flatMap fun p => applicable p.data.rules).map (·.pos))) := by
    rw [openLabels, applicableRules, depthFirst_eq_ok hb]
    rfl
  refine ⟨_, hlabels, SortedSet.mem_ofList.2 ?_⟩
  obtain ⟨a, s, hs, _, hforemost, haccepts⟩ := Branch.mem_turns.1 ht
  refine List.mem_map.2 ⟨t.2, List.mem_flatMap.2 ⟨_, Branch.mem_depthFirst.2 ⟨a, s, hs, rfl⟩, ?_⟩,
    haccepts⟩
  exact mem_applicable.2 hforemost

end Tree

/-- **Enumeration**: the results of `attach` correspond, one to one and in order, to the legal
    sites; no two of them have the same phrase; and if there is one, the candidate's label is among
    the labels that the derivation waits for. -/
theorem attach_enumerates_legal_sites {d c : Tree} (hd : d.Sound) (hc : c.Sound) :
    ∃ (label : String) (places : List Place) (sites : List (Nat × Rule)) (xs : List Tree),
      c.label = .ok label ∧ d.breadthFirst = .ok places ∧ d.attach c = .ok xs ∧
      sites.Nodup ∧ (∀ site, site ∈ sites ↔ d.Legal label site) ∧
      sites.Pairwise (d.Precedes places) ∧
      List.Forall₂ (fun site x => d.splice site.1 site.2 c = .ok (some x)) sites xs ∧
      xs.Pairwise (fun x y => x.phrase ≠ y.phrase) ∧
      (xs ≠ [] → ∃ labels, d.openLabels = .ok labels ∧ label ∈ labels) := by
  obtain ⟨b, hunfold, hb⟩ := hd.exists_denotes
  obtain ⟨g, _, hg⟩ := hc.exists_denotes
  refine ⟨g.data.label, b.breadthFirst, d.servedSites c b g.data.label, _, hg.label_eq,
    Tree.breadthFirst_eq_ok hunfold, Tree.attach_eq_ok hd.toIsTree hd.slotted hb hc.toIsTree hg,
    Tree.nodup_servedSites hb, fun site => Tree.mem_servedSites hb hd.slotted,
    Tree.pairwise_servedSites hb, Tree.forall₂_servedSites hb hd.slotted hc.toIsTree,
    Tree.pairwise_phrase_ne hd.toIsTree hc.toIsTree hb hg, ?_⟩
  intro hne
  obtain ⟨x, hx⟩ := List.exists_mem_of_ne_nil _ hne
  obtain ⟨t, ht, _⟩ := List.mem_filterMap.1 hx
  exact Tree.exists_mem_openLabels hunfold ht

theorem attach_enumerates_legal_sites_of_clause :
    Tree.clause.Sound ∧ Tree.noun.Sound ∧
    ∃ (places : List Place) (sites : List (Nat × Rule)),
      Tree.clause.breadthFirst = .ok places ∧
      Tree.clause.attach .noun = .ok [.subjectClause, .objectClause] ∧
      sites.Nodup ∧ (∀ site, site ∈ sites ↔ Tree.clause.Legal "NP" site) ∧
      sites.Pairwise (Tree.clause.Precedes places) ∧
      List.Forall₂ (fun site x => Tree.clause.splice site.1 site.2 .noun = .ok (some x)) sites
        [.subjectClause, .objectClause] ∧
      Tree.subjectClause.phrase ≠ Tree.objectClause.phrase ∧
      ∃ labels, Tree.clause.openLabels = .ok labels ∧ "NP" ∈ labels := by
  have hclause : Tree.clause.Sound := by decide
  have hnoun : Tree.noun.Sound := by decide
  have hattach : Tree.clause.attach .noun = .ok [.subjectClause, .objectClause] := by
    decide +kernel
  obtain ⟨label, places, sites, xs, hlabel, hplaces, hxs, hnodup, hlegal, horder, hsplice, hdiffer,
    hopen⟩ := attach_enumerates_legal_sites hclause hnoun
  obtain rfl : "NP" = label := Except.ok.inj hlabel
  obtain rfl := Except.ok.inj (hattach.symm.trans hxs)
  exact ⟨hclause, hnoun, places, sites, hplaces, hattach, hnodup, hlegal, horder, hsplice,
    List.rel_of_pairwise_cons hdiffer (List.mem_singleton_self _), hopen (List.cons_ne_nil _ _)⟩

end SpineGrammar
