import SpineGrammar.Proofs.Conservation
import SpineGrammar.Proofs.SideCounts

/-!
# Progress

A tree is gapless if its rules act on their owners and, on each side of each node, the orders of the
rules go on from the number of children there without a gap. Then no rule that is next in line has
to wait for anything but a tree with the right label. Insertions keep trees gapless, so a derivation
over gapless trees gets on as long as the grammar has a tree for it, and with trees that bring no
rules it ends after as many insertions as there are rules.
-/

namespace SpineGrammar

open scoped List

/-! ## Orders on one side -/

/-- The orders of the rules for one side. -/
def ordersOn (slot : Slot) (rules : List Rule) : List Nat :=
  (rules.filter (·.slot = slot)).map Rule.order

/-- Whether the orders of the rules for one side are `k`, `k + 1` and so on, each once. -/
def ConsecutiveFrom (k : Nat) (slot : Slot) (rules : List Rule) : Prop :=
  ordersOn slot rules ~ List.range' k (ordersOn slot rules).length

instance (k : Nat) (slot : Slot) (rules : List Rule) : Decidable (ConsecutiveFrom k slot rules) :=
  inferInstanceAs (Decidable (_ ~ _))

variable {rules : List Rule} {r : Rule} {k : Nat} {slot : Slot}

theorem mem_ordersOn {o : Nat} :
    o ∈ ordersOn slot rules ↔ ∃ p ∈ rules, p.slot = slot ∧ p.order = o := by
  simp only [ordersOn, List.mem_map, List.mem_filter, decide_eq_true_eq, and_assoc]

/-- The foremost of the rules that act on their owner has the first order of its side. -/
theorem ConsecutiveFrom.order_eq (h : ConsecutiveFrom k r.slot rules) (hr : r.Foremost rules)
    (hself : ∀ p ∈ rules, p.target = []) : r.order = k := by
  have hmem : r.order ∈ ordersOn r.slot rules := mem_ordersOn.2 ⟨r, hr.mem, rfl, rfl⟩
  have hle : k ≤ r.order := (List.mem_range'_1.1 (h.mem_iff.1 hmem)).1
  have hpos := List.length_pos_of_mem hmem
  -- Some rule has the first order, and it competes with `r`.
  have hfirst : k ∈ ordersOn r.slot rules := h.mem_iff.2 (List.mem_range'_1.2 (by omega))
  obtain ⟨p, hp, hslot, horder⟩ := mem_ordersOn.1 hfirst
  have hsite : p.site = r.site := by
    show (p.target, p.slot) = (r.target, r.slot)
    rw [hself p hp, hself r hr.mem, hslot]
  have hrp : r.order ≤ p.order := hr.order_le hp hsite
  omega

/-- Without the rule of the first order, the orders of a side go on from the next one. -/
theorem ConsecutiveFrom.filter_ne (h : ConsecutiveFrom k slot rules) (hrules : rules.Nodup)
    (hr : r ∈ rules) (horder : r.slot = slot → r.order = k) :
    ConsecutiveFrom (k + if slot = r.slot then 1 else 0) slot (rules.filter (· ≠ r)) := by
  by_cases hslot : slot = r.slot
  · subst hslot
    have hperm : k :: ordersOn r.slot (rules.filter (· ≠ r)) ~ ordersOn r.slot rules := by
      have htaken := ((cons_filter_ne_perm hrules hr).filter (·.slot = r.slot)).map Rule.order
      rw [List.filter_cons_of_pos (by simp), List.map_cons, horder rfl] at htaken
      exact htaken
    have hall := hperm.trans h
    rw [← hperm.length_eq, List.length_cons, List.range'_succ] at hall
    rw [if_pos rfl]
    exact hall.cons_inv
  · -- The rule is for the other side.
    have hsame : ordersOn slot (rules.filter (· ≠ r)) = ordersOn slot rules := by
      rw [ordersOn, ordersOn, List.filter_filter]
      congr 1
      refine List.filter_congr fun p _ => ?_
      by_cases hp : p.slot = slot
      · have hne : p ≠ r := fun heq => hslot (heq ▸ hp.symm)
        simp [hp, hne]
      · simp [hp]
    rw [if_neg hslot, Nat.add_zero, ConsecutiveFrom, hsame]
    exact h

/-! ## Gapless trees -/

namespace Tree

/-- A sound tree in which the rules of every node act on it and, for each side, their orders go on
    from the number of children on that side of the node's own spine gap. -/
structure Gapless (t : Tree) : Prop extends Sound t where
  self_addressed : ∀ id n, t.Reaches id → t.node id = .ok n → ∀ r ∈ n.rules, r.target = []
  consecutive : ∀ id n, t.Reaches id → t.node id = .ok n →
    ∀ slot, ∃ k, t.sideCount id slot = .ok k ∧ ConsecutiveFrom k slot n.rules

/-- `t.Waits site`: the rule `site.2` is to be served next at the node `site.1`. -/
def Waits (t : Tree) (site : Nat × Rule) : Prop :=
  t.Reaches site.1 ∧ ∃ n, t.node site.1 = .ok n ∧ site.2 ∈ applicable n.rules

variable {t d c x : Tree} {b : Branch} {site : Nat × Rule}

theorem gapless_iff : t.Gapless ↔ t.Sound ∧ ∃ b, t.unfold = .ok b ∧ ∀ id ∈ b.ids,
    ∃ n, t.node id = .ok n ∧ (∀ r ∈ n.rules, r.target = []) ∧
      ∀ slot ∈ [Slot.left, .right], ∃ k, t.sideCount id slot = .ok k ∧
        ConsecutiveFrom k slot n.rules := by
  constructor
  · intro h
    obtain ⟨b, hunfold, hb⟩ := h.toIsTree.exists_denotes
    refine ⟨h.toSound, b, hunfold, ?_⟩
    intro id hid
    have hreaches := hb.reaches_iff.2 hid
    obtain ⟨n, _, hn⟩ := h.toIsTree.exists_node_of_reaches hreaches
    exact ⟨n, hn, h.self_addressed id n hreaches hn,
      fun slot _ => h.consecutive id n hreaches hn slot⟩
  · rintro ⟨hsound, b, hunfold, hnodes⟩
    obtain ⟨b', hunfold', hb⟩ := hsound.toIsTree.exists_denotes
    obtain rfl := Except.ok.inj (hunfold.symm.trans hunfold')
    refine ⟨hsound, ?_, ?_⟩
    · intro id n hid hn
      obtain ⟨n', hn', hself, _⟩ := hnodes id (hb.reaches_iff.1 hid)
      obtain rfl := Except.ok.inj (hn.symm.trans hn')
      exact hself
    · intro id n hid hn slot
      obtain ⟨n', hn', _, hsides⟩ := hnodes id (hb.reaches_iff.1 hid)
      obtain rfl := Except.ok.inj (hn.symm.trans hn')
      exact hsides slot (by cases slot <;> simp)

instance (t : Tree) : Decidable t.Gapless := decidable_of_iff' _ gapless_iff

/-- Every rule that is to be served next is served. -/
theorem Gapless.exists_attaches (hd : d.Gapless) (hc : c.Sound) (hsite : d.Waits site)
    (hlabel : c.label = .ok site.2.pos) : ∃ x, d.Attaches c site x := by
  obtain ⟨id, r⟩ := site
  obtain ⟨hreaches, n, hn, hr⟩ := hsite
  have hforemost := mem_applicable.1 hr
  have hself := hd.self_addressed id n hreaches hn
  obtain ⟨k, hk, hconsecutive⟩ := hd.consecutive id n hreaches hn r.slot
  rw [exists_attaches_iff hd.toSound hc (hself r hforemost.mem)]
  refine ⟨hreaches, ⟨n, hn, hforemost⟩, hlabel, ?_⟩
  rw [hk, hconsecutive.order_eq hforemost hself]

/-- The step: a result of inserting a gapless tree into a gapless tree is gapless. -/
theorem Attaches.gapless (h : d.Attaches c site x) (hd : d.Gapless) (hc : c.Gapless) :
    x.Gapless := by
  obtain ⟨owner, r⟩ := site
  have hreaches := h.reaches_owner hd.toSound hc.toSound
  obtain ⟨m, hm, hforemost⟩ := h.foremost hd.toSound hc.toSound
  have hself := hd.self_addressed owner m hreaches hm
  have htarget := hself r hforemost.mem
  -- Each node of the result is one of the host or a copy of one of the candidate.
  refine ⟨h.sound hd.toSound hc.toSound, ?_, ?_⟩
  · intro id n hid hn p hp
    rcases h.node_cases hd.toSound hc.toSound htarget hid hn with
      ⟨old, i, hid, hold, rfl⟩ | ⟨j, old, hj, hold, rfl, rfl⟩
    · refine hd.self_addressed id old hid hold p ?_
      rw [Node.afterInsertion] at hp
      split at hp
      · exact List.mem_of_mem_filter hp
      · exact hp
    · refine hc.self_addressed j old hj hold p ?_
      split at hp <;> exact hp
  · intro id n hid hn slot
    rcases h.node_cases hd.toSound hc.toSound htarget hid hn with
      ⟨old, i, hid, hold, rfl⟩ | ⟨j, old, hj, hold, rfl, rfl⟩
    · obtain ⟨k, hk, hconsecutive⟩ := hd.consecutive id old hid hold slot
      refine ⟨_, h.sideCount hd.toSound hc.toSound htarget hk, ?_⟩
      rw [Node.afterInsertion]
      by_cases howner : id = owner
      · -- The owner has one child more and lost the rule of the first order.
        subst howner
        obtain rfl := Except.ok.inj (hm.symm.trans hold)
        have horder : r.slot = slot → r.order = k := by
          rintro rfl
          exact hconsecutive.order_eq hforemost hself
        have hnodup := hd.rules_nodup m (mem_of_node_eq_ok hm)
        simpa using hconsecutive.filter_ne hnodup hforemost.mem horder
      · simpa [howner] using hconsecutive
    · obtain ⟨k, hk, hconsecutive⟩ := hc.consecutive j old hj hold slot
      refine ⟨k, (h.sideCount_add hc.toSound hj slot).trans hk, ?_⟩
      split <;> exact hconsecutive

/-- Inserting into a gapless tree has one result for each rule that is to be served next and
    accepts the candidate. -/
theorem Gapless.length_attach (hd : d.Gapless) (hc : c.Sound) {xs : List Tree} {rs : List Rule}
    {label : String} (hxs : d.attach c = .ok xs) (hrs : d.applicableRules = .ok rs)
    (hlabel : c.label = .ok label) : xs.length = rs.countP (·.pos = label) := by
  obtain ⟨b, hunfold, hb⟩ := hd.toIsTree.exists_denotes
  obtain ⟨g, _, hg⟩ := hc.exists_denotes
  obtain rfl := Except.ok.inj (hg.label_eq.symm.trans hlabel)
  rw [attach_eq_ok hd.toIsTree hd.slotted hb hc.toIsTree hg, Except.ok.injEq] at hxs
  have hrules : rs = b.depthFirst.flatMap fun p => applicable p.data.rules := by
    rw [applicableRules, depthFirst_eq_ok hunfold] at hrs
    exact (Except.ok.inj hrs).symm
  -- No rule that is next in line is turned away.
  have hall : ∀ t ∈ b.turns g.data.label, (d.served c b t).isSome = true := by
    rintro ⟨p, r⟩ ht
    obtain ⟨a, s, hs, hplace, hforemost, hpos⟩ := Branch.mem_turns.1 ht
    obtain rfl : p = ⟨s.id, a, s.data⟩ := hplace
    have hsite : d.Waits (s.id, r) :=
      ⟨hb.reaches_iff.2 (Branch.id_mem_of_at? hs), _, (hb.at? hs).node,
        mem_applicable.2 hforemost⟩
    obtain ⟨x, hx⟩ := hd.exists_attaches hc hsite (hlabel.trans (congrArg _ hpos.symm))
    have hserved := splice_eq_served hb.toHolds hd.slotted hc.toIsTree hs r
    rw [hx.result, Except.ok.injEq] at hserved
    rw [← hserved]
    rfl
  have hturns : (b.turns g.data.label).length =
      (b.breadthFirst.flatMap fun p => applicable p.data.rules).countP (·.pos = g.data.label) := by
    simp only [Branch.turns, List.countP_eq_length_filter, List.filter_flatMap, List.length_flatMap,
      List.length_map]
  rw [← hxs, List.filterMap_length_eq_length.2 hall, hturns, hrules]
  exact (b.breadthFirst_perm.flatMap_right _).countP_eq _

/-- A sound tree without rules is gapless. -/
theorem Sound.gapless_of_ruleFree (h : t.Sound) (hrules : t.ruleCount = .ok 0) : t.Gapless := by
  obtain ⟨b, _, hb⟩ := h.exists_denotes
  have hempty : b.rules = [] := by
    rw [← List.length_eq_zero_iff]
    exact Except.ok.inj ((hb.ruleCount_eq h.toIsTree).symm.trans hrules)
  have hnone : ∀ id n, t.Reaches id → t.node id = .ok n → n.rules = [] := by
    intro id n hid hn
    obtain ⟨a, s, hs, rfl⟩ := Branch.mem_ids.1 (hb.reaches_iff.1 hid)
    obtain rfl := Except.ok.inj ((hb.at? hs).node.symm.trans hn)
    exact List.flatMap_eq_nil_iff.1 hempty ⟨s.id, a, s.data⟩
      (Branch.mem_depthFirst.2 ⟨a, s, hs, rfl⟩)
  refine ⟨h, ?_, ?_⟩
  · intro id n hid hn r hr
    rw [hnone id n hid hn] at hr
    cases hr
  · intro id n hid hn slot
    obtain ⟨a, s, hs, rfl⟩ := Branch.mem_ids.1 (hb.reaches_iff.1 hid)
    refine ⟨_, (hb.at? hs).sideCount h.slotted slot, ?_⟩
    rw [hnone s.id n hid hn]
    exact .refl _

theorem Sound.exists_applicableRules (h : t.Sound) : ∃ rs, t.applicableRules = .ok rs := by
  obtain ⟨b, hb, _⟩ := h.exists_denotes
  exact ⟨_, by rw [applicableRules, depthFirst_eq_ok hb]; rfl⟩

/-- As long as there are rules, some rule is to be served next. -/
theorem Sound.exists_waits (h : t.Sound) {k : Nat} (hk : t.ruleCount = .ok k) (hpos : 0 < k) :
    ∃ site, t.Waits site := by
  obtain ⟨b, _, hb⟩ := h.exists_denotes
  obtain rfl := Except.ok.inj ((hb.ruleCount_eq h.toIsTree).symm.trans hk)
  obtain ⟨r, hr⟩ := List.exists_mem_of_length_pos hpos
  obtain ⟨p, hp, hr⟩ := List.mem_flatMap.1 hr
  obtain ⟨a, s, hs, rfl⟩ := Branch.mem_depthFirst.1 hp
  obtain ⟨r', hr', _⟩ := exists_applicable_le hr
  exact ⟨(s.id, r'), hb.reaches_iff.2 (Branch.id_mem_of_at? hs), s.data, (hb.at? hs).node, hr'⟩

end Tree

/-! ## Runs -/

namespace State

variable {s s' : State} {call : Call} {d c x : Tree} {site : Nat × Rule}

/-- A call brings its own tree or picks one of the grammar. -/
theorem Step.tree_mem (h : s.Step call s') :
    call.selection = .action call.action ∨ call.action.tree ∈ s.grammar.trees := by
  have hselect := h.select
  cases hselection : call.selection with
  | action a =>
    rw [hselection] at hselect
    obtain ⟨_, _, ha⟩ := bind_eq_ok_iff.1 hselect
    exact .inl (by rw [Except.ok.inj ha])
  | index i =>
    right
    rw [hselection] at hselect
    obtain ⟨as, has, hpick⟩ := bind_eq_ok_iff.1 hselect
    rw [ofChecked_eq_ok_iff] at has
    split at hpick
    · next a ha =>
      obtain rfl := Except.ok.inj hpick
      exact tree_mem_of_mem_actions has (List.mem_of_getElem? ha)
    · cases hpick

theorem Step.grammar_eq (h : s.Step call s') : s'.grammar = s.grammar := by
  rcases h.cases with ⟨t, _, _, rfl⟩ | ⟨d, t, xs, x, _, _, _, _, rfl⟩
  · rfl
  · rfl

/-- A result of an insertion can be taken as the next state. -/
theorem step_of_attaches (hs : s.tree = some d) (h : d.Attaches c site x) :
    s.Step ⟨.action (.substitute c), .substitute c⟩ { s with tree := some x } := by
  obtain ⟨xs, hxs, hx⟩ := h.listed
  obtain ⟨i, hi⟩ := List.getElem?_of_mem hx
  have hselect : s.select (.action (.substitute c)) = .ok (.substitute c) := by
    obtain ⟨tree, grammar⟩ := s
    obtain rfl : tree = some d := hs
    rfl
  refine ⟨hselect, i, ?_⟩
  rw [execute, hselect, ok_bind, outcomes_of_eq_some hs, hxs, ofChecked_ok, ok_bind, hi]
  rfl

/-- A derivation in progress is not stalled. -/
theorem isStalled_of_phase (hs : s.tree = some d) (hphase : s.phase = .ok .inProgress) :
    s.isStalled d = .ok false := by
  simp only [phase, hs] at hphase
  obtain ⟨complete, _, hphase⟩ := bind_eq_ok_iff.1 hphase
  cases complete with
  | true => cases hphase
  | false =>
    obtain ⟨stalled, hstalled, hphase⟩ := bind_eq_ok_iff.1 hphase
    cases stalled with
    | true => cases hphase
    | false => exact hstalled

/-- If a derivation is not stalled, the grammar has a tree for a rule that is to be served next. -/
theorem exists_treesFor_of_isStalled {rs : List Rule} (hrs : d.applicableRules = .ok rs)
    (h : s.isStalled d = .ok false) : ∃ r ∈ rs, ∃ t, t ∈ s.grammar.treesFor r.pos := by
  have hopen : d.openLabels = .ok (.ofList (rs.map (·.pos))) := by rw [Tree.openLabels, hrs]; rfl
  rw [isStalled, hopen, ok_bind, pure_eq_ok, Except.ok.injEq, List.all_eq_false] at h
  obtain ⟨label, hlabel, hsome⟩ := h
  have hmem : label ∈ SortedSet.ofList (rs.map (·.pos)) := hlabel
  obtain ⟨r, hr, rfl⟩ := List.mem_map.1 (SortedSet.mem_ofList.1 hmem)
  rw [List.isEmpty_iff] at hsome
  obtain ⟨t, ht⟩ := List.exists_mem_of_ne_nil _ hsome
  exact ⟨r, hr, t, ht⟩

/-- A tree of the grammar for a rule that is to be served next is the tree of an action. -/
theorem substitute_mem_actions (hs : s.tree = some d) {rs : List Rule} {r : Rule} {t : Tree}
    {as : List Action} (hrs : d.applicableRules = .ok rs) (hr : r ∈ rs)
    (ht : t ∈ s.grammar.treesFor r.pos) (has : s.actions = .ok as) : .substitute t ∈ as := by
  have hopen : d.openLabels = .ok (.ofList (rs.map (·.pos))) := by rw [Tree.openLabels, hrs]; rfl
  simp only [actions, hs, hopen, ok_bind] at has
  obtain rfl := Except.ok.inj has
  refine List.mem_map.2 ⟨t, List.mem_flatMap.2 ⟨r.pos, ?_, ht⟩, rfl⟩
  exact SortedSet.mem_ofList.2 (List.mem_map.2 ⟨r, hr, rfl⟩)

theorem successorsBy_eq {a : Action} {xs : List Tree} (h : a.results s.tree = .ok xs) :
    s.successorsBy a = .ok (xs.mapIdx fun i t => ⟨a, i, { s with tree := some t }⟩) := by
  unfold successorsBy
  rw [h]
  rfl

/-- In a sound state the successors are those by all actions. -/
theorem Sound.exists_successors (h : s.Sound) {as : List Action} (has : s.actions = .ok as) :
    ∃ ls, as.mapM s.successorsBy = .ok ls ∧ s.successors = .ok ls.flatten := by
  obtain ⟨ls, hls⟩ : ∃ ls, as.mapM s.successorsBy = .ok ls := by
    apply exists_mapM_eq_ok
    intro a ha
    obtain ⟨xs, hxs⟩ := h.exists_results has ha
    exact ⟨_, successorsBy_eq hxs⟩
  exact ⟨ls, hls, by rw [successors, has, ok_bind, hls]; rfl⟩

/-- Where a derivation is gapless and in progress, some action has an outcome. -/
theorem exists_successors_of_gapless (hs : s.tree = some d) (hd : d.Gapless)
    (hg : s.grammar.Sound) (hlabels : ∀ e ∈ s.grammar.entries, e.2.label = .ok e.1)
    (hphase : s.phase = .ok .inProgress) : ∃ l, s.successors = .ok l ∧ l ≠ [] := by
  have hsound : s.Sound := ⟨hg, fun t ht => Option.some.inj (hs.symm.trans ht) ▸ hd.toSound⟩
  obtain ⟨rs, hrs⟩ := hd.toSound.exists_applicableRules
  obtain ⟨r, hr, t, ht⟩ := exists_treesFor_of_isStalled hrs (isStalled_of_phase hs hphase)
  obtain ⟨as, has, hactions⟩ := hsound.exists_actions
  have hmem := substitute_mem_actions hs hrs hr ht has
  obtain ⟨ls, hls, hsuccessors⟩ := hsound.exists_successors has
  refine ⟨_, hsuccessors, ?_⟩
  -- The rule is served, so the action with the tree for it has an outcome.
  obtain ⟨xs, hxs, _⟩ := hd.toSound.exists_attach (hactions _ hmem)
  have hlabel : t.label = .ok r.pos := by
    obtain ⟨e, he, rfl⟩ := List.mem_map.1 ht
    obtain ⟨he, hpos⟩ := List.mem_filter.1 he
    rw [hlabels e he, of_decide_eq_true hpos]
  have hpos : 0 < xs.length := by
    rw [hd.length_attach (hactions _ hmem) hxs hrs hlabel]
    exact List.countP_pos_iff.2 ⟨r, hr, decide_eq_true rfl⟩
  obtain ⟨l, hl, hby⟩ := exists_mem_of_mapM hls hmem
  have hlength : l.length = xs.length := by
    have hresults : (Action.substitute t).results s.tree = .ok xs := by rw [hs]; exact hxs
    obtain rfl := Except.ok.inj (hby.symm.trans (successorsBy_eq hresults))
    exact List.length_mapIdx
  intro hempty
  rw [List.flatten_eq_nil_iff.1 hempty l hl, List.length_nil] at hlength
  omega

end State

/-- The entries of a grammar of given trees are these trees, each with its label. -/
theorem Grammar.of_mem_ofTrees {trees : List Tree} {start : String} {g : Grammar}
    (h : Grammar.ofTrees trees start = .ok g) {e : String × Tree} (he : e ∈ g.entries) :
    e.2 ∈ trees ∧ e.2.label = .ok e.1 := by
  obtain ⟨entries, hentries, hg⟩ := bind_eq_ok_iff.1 h
  obtain rfl := Except.ok.inj hg
  obtain ⟨t, ht, hentry⟩ := exists_of_mem_mapM hentries he
  obtain ⟨label, hlabel, hentry⟩ := bind_eq_ok_iff.1 hentry
  obtain rfl := Except.ok.inj hentry
  exact ⟨ht, hlabel⟩

namespace RunFrom

variable {s₀ s : State} {calls : List Call}

theorem grammar_eq (h : RunFrom s₀ calls s) : s.grammar = s₀.grammar := by
  induction h with
  | start => rfl
  | step _ hstep ih => exact hstep.grammar_eq.trans ih

/-- Every call of a run brings its own tree or picks one of the grammar. -/
theorem tree_mem (h : RunFrom s₀ calls s) {call : Call} (hcall : call ∈ calls) :
    call.selection = .action call.action ∨ call.action.tree ∈ s₀.grammar.trees := by
  induction h with
  | start => cases hcall
  | step hrun hstep ih =>
    rcases List.mem_append.1 hcall with hcall | hcall
    · exact ih hcall
    · rw [List.mem_singleton.1 hcall, ← hrun.grammar_eq]
      exact hstep.tree_mem

/-- The run: if insertions over trees with a property give trees with it, then so do runs. -/
theorem preserves {P : Tree → Prop}
    (hattach : ∀ d c xs x, P d → P c → d.attach c = .ok xs → x ∈ xs → P x)
    (h : RunFrom s₀ calls s) (hs₀ : ∀ t, s₀.tree = some t → P t)
    (hcalls : ∀ call ∈ calls, P call.action.tree) : ∀ t, s.tree = some t → P t := by
  induction h with
  | start => exact hs₀
  | @step calls call s s' _ hstep ih =>
    have hbefore := ih fun call' hcall' => hcalls call' (List.mem_append_left _ hcall')
    have haction := hcalls call (List.mem_append_right _ (List.mem_singleton_self call))
    intro x hx
    rcases hstep.cases with ⟨t, _, hinitial, rfl⟩ | ⟨d, t, xs, y, hd, hsubstitute, hxs, hy, rfl⟩
    · obtain rfl := Option.some.inj hx
      rw [hinitial] at haction
      exact haction
    · obtain rfl := Option.some.inj hx
      rw [hsubstitute] at haction
      exact hattach d t xs y (hbefore d hd) haction hxs hy

end RunFrom

theorem Tree.Gapless.of_mem_attach {d c x : Tree} {xs : List Tree} (hd : d.Gapless) (hc : c.Gapless)
    (hxs : d.attach c = .ok xs) (hx : x ∈ xs) : x.Gapless := by
  obtain ⟨site, h⟩ := exists_attaches_of_mem hxs hx
  exact h.gapless hd hc

/-- Over gapless trees every derivation is gapless. -/
theorem Run.gapless {g : Grammar} {calls : List Call} {s : State} (h : Run g calls s)
    (hg : ∀ t ∈ g.trees, t.Gapless) (hcalls : ∀ call ∈ calls, call.selection.Brings Tree.Gapless) :
    ∀ t, s.tree = some t → t.Gapless := by
  have hrun := run_iff_runFrom.1 h
  refine hrun.preserves (fun d c xs x hd hc hxs hx => hd.of_mem_attach hc hxs hx) ?_ ?_
  · intro t ht
    cases ht
  · intro call hcall
    rcases hrun.tree_mem hcall with hown | hmem
    · have hbrings := hcalls call hcall
      rw [hown] at hbrings
      exact hbrings
    · exact hg _ hmem

/-- Trees without rules use up the rules of a gapless derivation one by one. -/
theorem RunFrom.ruleCount_add {g : Grammar} {d : Tree} {k : Nat} {calls : List Call} {s : State}
    (h : RunFrom (.resume g d) calls s) (hd : d.Gapless) (hk : d.ruleCount = .ok k)
    (hcalls : ∀ call ∈ calls, call.action.tree.Sound ∧ call.action.tree.ruleCount = .ok 0) :
    ∃ x m, s.tree = some x ∧ x.Gapless ∧ x.ruleCount = .ok m ∧ m + calls.length = k := by
  -- By induction on the calls: each takes one rule and brings none.
  induction h with
  | start => exact ⟨d, k, rfl, hd, hk, rfl⟩
  | @step calls call s s' _ hstep ih =>
    obtain ⟨x, m, hx, hgapless, hm, hsum⟩ :=
      ih fun call' hcall' => hcalls call' (List.mem_append_left _ hcall')
    obtain ⟨hsound, hfree⟩ := hcalls call (List.mem_append_right _ (List.mem_singleton_self call))
    rcases hstep.cases with ⟨t, hnone, _⟩ | ⟨x', t, xs, y, hx', hsubstitute, hxs, hy, rfl⟩
    · -- A derivation that is there cannot be started.
      rw [hx] at hnone
      cases hnone
    · obtain rfl : x = x' := Option.some.inj (hx.symm.trans hx')
      rw [hsubstitute] at hsound hfree
      have htree : t.Sound := hsound
      obtain ⟨m', l, m'', hm', hl, hm'', hrules⟩ := (hgapless.toSound.joins htree hxs hy).rules
      obtain rfl := Except.ok.inj (hm.symm.trans hm')
      obtain rfl := Except.ok.inj (hfree.symm.trans hl)
      have hnext := hgapless.of_mem_attach (htree.gapless_of_ruleFree hfree) hxs hy
      refine ⟨y, m'', rfl, hnext, hm'', ?_⟩
      rw [List.length_append, List.length_singleton]
      omega

/-- **Progress**: inserting a gapless tree into a gapless tree has one gapless result for each rule
    that is to be served next and accepts it. So over a grammar of gapless trees a derivation in
    progress has a successor. And a run from a gapless derivation that inserts trees without rules
    is terminal after as many insertions as there were rules and not before; until then some rule
    waits, and any waiting rule can be served with any such tree that it accepts. -/
theorem gapless_progress :
    (∀ d c : Tree, d.Gapless → c.Gapless → ∃ xs rs label, d.attach c = .ok xs ∧
      d.applicableRules = .ok rs ∧ c.label = .ok label ∧
      xs.length = rs.countP (·.pos = label) ∧ ∀ x ∈ xs, x.Gapless) ∧
    (∀ (trees : List Tree) (start : String) (g : Grammar) (calls : List Call) (s : State),
      Grammar.ofTrees trees start = .ok g → (∀ t ∈ trees, t.Gapless) → Run g calls s →
      (∀ call ∈ calls, call.selection.Brings Tree.Gapless) → s.phase = .ok .inProgress →
      ∃ l, s.successors = .ok l ∧ l ≠ []) ∧
    (∀ (g : Grammar) (d : Tree) (k : Nat) (calls : List Call) (s : State), d.Gapless →
      d.ruleCount = .ok k → RunFrom (.resume g d) calls s →
      (∀ call ∈ calls, call.action.tree.Sound ∧ call.action.tree.ruleCount = .ok 0) →
      calls.length ≤ k ∧ (s.phase = .ok .terminal ↔ calls.length = k) ∧
      ∃ x, s.tree = some x ∧ (calls.length < k → ∃ site, x.Waits site) ∧
        ∀ site c, x.Waits site → c.Sound → c.label = .ok site.2.pos →
          ∃ y, x.Attaches c site y ∧
            s.Step ⟨.action (.substitute c), .substitute c⟩ { s with tree := some y }) := by
  refine ⟨?_, ?_, ?_⟩
  · intro d c hd hc
    obtain ⟨xs, hxs, _⟩ := hd.toSound.exists_attach hc.toSound
    obtain ⟨rs, hrs⟩ := hd.toSound.exists_applicableRules
    obtain ⟨label, hlabel⟩ := hc.toSound.exists_label
    exact ⟨xs, rs, label, hxs, hrs, hlabel, hd.length_attach hc.toSound hxs hrs hlabel,
      fun x hx => hd.of_mem_attach hc hxs hx⟩
  · intro trees start g calls s htrees hgapless hrun hcalls hphase
    have hmem : ∀ t ∈ g.trees, t ∈ trees := by
      intro t ht
      obtain ⟨e, he, rfl⟩ := List.mem_map.1 ht
      exact (Grammar.of_mem_ofTrees htrees he).1
    have hgrammar := (run_iff_runFrom.1 hrun).grammar_eq
    cases hs : s.tree with
    | none =>
      -- Before the start the phase is another one.
      simp only [State.phase, hs] at hphase
      cases hphase
    | some d =>
      have hd := hrun.gapless (fun t ht => hgapless t (hmem t ht)) hcalls d hs
      refine State.exists_successors_of_gapless hs hd ?_ ?_ hphase
      · rw [hgrammar]
        exact fun t ht => (hgapless t (hmem t ht)).toSound
      · rw [hgrammar]
        exact fun e he => (Grammar.of_mem_ofTrees htrees he).2
  · intro g d k calls s hd hk hrun hcalls
    obtain ⟨x, m, hx, hgapless, hm, hsum⟩ := hrun.ruleCount_add hd hk hcalls
    refine ⟨by omega, ?_, x, hx, ?_, ?_⟩
    · rw [State.phase_eq_terminal_iff hx hgapless.toSound hm]
      omega
    · intro hlt
      exact hgapless.toSound.exists_waits hm (by omega)
    · intro site c hsite hc hlabel
      obtain ⟨y, hy⟩ := hgapless.exists_attaches hc hsite hlabel
      exact ⟨y, hy, State.step_of_attaches hx hy⟩

/-- A grammar of a clause and a noun phrase whose rules act on their owners. -/
def openGrammar : Grammar := ⟨[("S", .openClause), ("NP", .noun)], "S"⟩

/-- A clause that gets its three noun phrases. -/
theorem gapless_progress_openClause :
    (Tree.openClause.Gapless ∧ Tree.noun.Gapless ∧
      ∃ xs rs label, Tree.openClause.attach .noun = .ok xs ∧
        Tree.openClause.applicableRules = .ok rs ∧ Tree.noun.label = .ok label ∧
        xs.length = rs.countP (·.pos = label) ∧ ∀ x ∈ xs, x.Gapless) ∧
    (Run openGrammar [⟨.index 0, .initial .openClause⟩] ⟨some .openClause, openGrammar⟩ ∧
      State.phase ⟨some .openClause, openGrammar⟩ = .ok .inProgress ∧
      ∃ l, State.successors ⟨some .openClause, openGrammar⟩ = .ok l ∧ l ≠ []) ∧
    Tree.openClause.ruleCount = .ok 3 ∧ Tree.noun.ruleCount = .ok 0 ∧
    ∃ x, RunFrom (.resume openGrammar .openClause)
        (List.replicate 3 ⟨.action (.substitute .noun), .substitute .noun⟩)
        ⟨some x, openGrammar⟩ ∧
      State.phase ⟨some x, openGrammar⟩ = .ok .terminal := by
  have hclause : Tree.openClause.Gapless := by decide +kernel
  have hnoun : Tree.noun.Gapless := by decide +kernel
  have hcount : Tree.openClause.ruleCount = .ok 3 := by decide +kernel
  have hfree : Tree.noun.ruleCount = .ok 0 := by decide +kernel
  have hgrammar : Grammar.ofTrees [.openClause, .noun] "S" = .ok openGrammar := by decide +kernel
  have hstart : Run openGrammar [⟨.index 0, .initial .openClause⟩]
      ⟨some .openClause, openGrammar⟩ :=
    .step .start ⟨by decide +kernel, 0, by decide +kernel⟩
  have hphase : State.phase ⟨some .openClause, openGrammar⟩ = .ok .inProgress := by
    decide +kernel
  let x₁ := Tree.openClause.spliced .noun (nounRule [] .left) 0 0 0
  let x₂ := x₁.spliced .noun (nounRule [] .right) 1 1 1
  let x₃ := x₂.spliced .noun (nounRule [] .right) 0 0 2
  have h₁ : Tree.openClause.Attaches .noun (0, nounRule [] .left) x₁ := by decide +kernel
  have h₂ : x₁.Attaches .noun (1, nounRule [] .right) x₂ := by decide +kernel
  have h₃ : x₂.Attaches .noun (0, nounRule [] .right) x₃ := by decide +kernel
  have hrun : RunFrom (.resume openGrammar .openClause)
      (List.replicate 3 ⟨.action (.substitute .noun), .substitute .noun⟩)
      ⟨some x₃, openGrammar⟩ :=
    .step (.step (.step .start (State.step_of_attaches rfl h₁)) (State.step_of_attaches rfl h₂))
      (State.step_of_attaches rfl h₃)
  refine ⟨⟨hclause, hnoun, gapless_progress.1 _ _ hclause hnoun⟩, ⟨hstart, hphase, ?_⟩, hcount,
    hfree, x₃, hrun, ?_⟩
  · refine gapless_progress.2.1 [.openClause, .noun] "S" _ _ _ hgrammar ?_ hstart ?_ hphase
    · intro t ht
      rcases List.mem_cons.1 ht with rfl | ht
      · exact hclause
      · rw [List.mem_singleton.1 ht]
        exact hnoun
    · intro call hcall
      rw [List.mem_singleton.1 hcall]
      exact trivial
  · refine (gapless_progress.2.2 _ _ _ _ _ hclause hcount hrun ?_).2.1.2 rfl
    intro call hcall
    rw [List.eq_of_mem_replicate hcall]
    exact ⟨hnoun.toSound, hfree⟩

end SpineGrammar
