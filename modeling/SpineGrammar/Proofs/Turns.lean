import SpineGrammar.Proofs.Applicable
import SpineGrammar.Proofs.Splice
import SpineGrammar.Proofs.Walk

/-!
# All insertions

`attach` takes up the rules that are to be served next, node by node in breadth-first order, and
keeps the results of those that are served.
-/

namespace SpineGrammar

/-! ## Rules of a branch -/

namespace Branch

/-- The rules to be served next that accept a label, each with the place of its owner. -/
def turns (b : Branch) (label : String) : List (Place × Rule) :=
  b.breadthFirst.flatMap fun p =>
    ((applicable p.data.rules).filter (·.pos = label)).map (p, ·)

/-- The owner of a rule, its target and the position for its argument, if the rule is served. -/
def serve? (b : Branch) (a : Address) (r : Rule) : Option (Branch × Branch × Nat) := do
  let s ← b.at? a
  let m ← s.at? r.target
  let i ← (Phrase.gap s.below.phrases).position? m.below.phrases.length r.slot r.order
  return (s, m, i)

variable {b s m : Branch} {a : Address} {r : Rule} {i : Nat} {label : String}

theorem serve?_eq_some_iff : b.serve? a r = some (s, m, i) ↔ b.Serves a r s m i := by
  simp only [serve?, Option.bind_eq_bind, Option.bind_eq_some_iff, Option.pure_def,
    Option.some.injEq, Prod.mk.injEq]
  constructor
  · rintro ⟨s, hs, m, hm, i, hi, rfl, rfl, rfl⟩
    exact ⟨hs, hm, hi⟩
  · rintro ⟨hs, hm, hi⟩
    exact ⟨s, hs, m, hm, i, hi, rfl, rfl, rfl⟩

/-- Breadth-first order lists the node at each address. -/
theorem mem_breadthFirst {p : Place} :
    p ∈ b.breadthFirst ↔ ∃ a s, b.at? a = some s ∧ p = ⟨s.id, a, s.data⟩ := by
  rw [b.breadthFirst_perm.mem_iff, mem_depthFirst]

theorem mem_turns {t : Place × Rule} : t ∈ b.turns label ↔
    ∃ a s, b.at? a = some s ∧ t.1 = ⟨s.id, a, s.data⟩ ∧
      t.2.Foremost s.data.rules ∧ t.2.pos = label := by
  rw [turns, List.mem_flatMap]
  constructor
  · rintro ⟨p, hp, ht⟩
    obtain ⟨r, hr, rfl⟩ := List.mem_map.1 ht
    obtain ⟨hr, hpos⟩ := List.mem_filter.1 hr
    obtain ⟨a, s, hs, rfl⟩ := mem_breadthFirst.1 hp
    exact ⟨a, s, hs, rfl, mem_applicable.1 hr, of_decide_eq_true hpos⟩
  · rintro ⟨a, s, hs, hp, hr, hpos⟩
    refine ⟨t.1, mem_breadthFirst.2 ⟨a, s, hs, hp⟩, List.mem_map.2 ⟨t.2, ?_, rfl⟩⟩
    rw [List.mem_filter, hp]
    exact ⟨mem_applicable.2 hr, decide_eq_true hpos⟩

end Branch

/-! ## Results -/

namespace Tree

variable {d c : Tree} {b g : Branch}

/-- The result of inserting `c` for a rule of the branch `b`, if the rule is served. -/
def served (d c : Tree) (b : Branch) (t : Place × Rule) : Option Tree :=
  (b.serve? t.1.address t.2).map fun s => d.spliced c t.2 s.1.id s.2.1.id s.2.2

theorem served_eq_some_iff {t : Place × Rule} {x : Tree} : d.served c b t = some x ↔
    ∃ s m i, b.Serves t.1.address t.2 s m i ∧ x = d.spliced c t.2 s.id m.id i := by
  rw [served, Option.map_eq_some_iff]
  constructor
  · rintro ⟨⟨s, m, i⟩, h, rfl⟩
    exact ⟨s, m, i, Branch.serve?_eq_some_iff.1 h, rfl⟩
  · rintro ⟨s, m, i, h, rfl⟩
    exact ⟨(s, m, i), Branch.serve?_eq_some_iff.2 h, rfl⟩

theorem Denotes.label_eq (h : d.Denotes b) : d.label = .ok b.data.label := by
  rw [label, rootNode, ← h.root, h.node]
  rfl

theorem splice_eq_served (hd : d.Holds b) (hslot : d.Slotted) (hc : c.IsTree) {a : Address}
    {s : Branch} (hs : b.at? a = some s) (r : Rule) :
    d.splice s.id r c = .ok (d.served c b (⟨s.id, a, s.data⟩, r)) := by
  cases hserve : b.serve? a r with
  | some z =>
    obtain ⟨s', m, i⟩ := z
    have h := Branch.serve?_eq_some_iff.1 hserve
    obtain rfl : s = s' := Option.some.inj (hs.symm.trans h.owner)
    rw [splice_eq_some hd hslot hc h, served, hserve]
    rfl
  | none =>
    rw [splice_eq_none hd hslot hs, served, hserve]
    · rfl
    · intro m i h
      rw [Branch.serve?_eq_some_iff.2 h] at hserve
      cases hserve

/-- What `attach` returns for trees: one result for each rule that is served. -/
theorem attach_eq_ok (hdtree : d.IsTree) (hslot : d.Slotted) (hd : d.Denotes b) (hctree : c.IsTree)
    (hc : c.Denotes g) :
    d.attach c = .ok ((b.turns g.data.label).filterMap (d.served c b)) := by
  have hsites : openSites b.breadthFirst g.data.label =
      (b.turns g.data.label).map fun t => (t.1.id, t.2) := by
    simp only [openSites, Branch.turns, List.map_flatMap, List.map_map, Function.comp_def]
  have hresults : (openSites b.breadthFirst g.data.label).mapM (fun s => d.splice s.1 s.2 c) =
      .ok ((b.turns g.data.label).map (d.served c b)) := by
    rw [hsites, List.mapM_map]
    apply mapM_eq_ok_map
    intro t ht
    obtain ⟨a, s, hs, hplace, _⟩ := Branch.mem_turns.1 ht
    obtain ⟨p, r⟩ := t
    obtain rfl : p = ⟨s.id, a, s.data⟩ := hplace
    exact splice_eq_served hd.toHolds hslot hctree hs r
  rw [attach, hc.label_eq, ok_bind, breadthFirst_eq_ok (hd.unfold_eq hdtree), ok_bind, hresults,
    ok_bind, List.filterMap_map]
  rfl

/-- Each result comes from a foremost rule that accepts the candidate and is served. -/
theorem exists_serves_of_mem_attach (hdtree : d.IsTree) (hslot : d.Slotted) (hd : d.Denotes b)
    (hctree : c.IsTree) (hc : c.Denotes g) {xs : List Tree} (hxs : d.attach c = .ok xs) {x : Tree}
    (hx : x ∈ xs) : ∃ a r s m i, b.Serves a r s m i ∧ r.Foremost s.data.rules ∧
      x = d.spliced c r s.id m.id i := by
  rw [attach_eq_ok hdtree hslot hd hctree hc, Except.ok.injEq] at hxs
  subst hxs
  obtain ⟨⟨p, r⟩, ht, hserved⟩ := List.mem_filterMap.1 hx
  obtain ⟨s, m, i, h, rfl⟩ := served_eq_some_iff.1 hserved
  obtain ⟨a, s', hs', hplace, hforemost, _⟩ := Branch.mem_turns.1 ht
  obtain rfl : p = ⟨s'.id, a, s'.data⟩ := hplace
  obtain rfl : s' = s := Option.some.inj (hs'.symm.trans h.owner)
  exact ⟨a, r, s', m, i, h, hforemost, rfl⟩

end Tree

end SpineGrammar
