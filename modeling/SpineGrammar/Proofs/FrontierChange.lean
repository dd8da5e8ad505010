import SpineGrammar.Proofs.Progress
import SpineGrammar.Proofs.SurfaceOrder

/-!
# How the frontier changes

An insertion serves one rule. At its site the rule that comes next takes its place, if there is one;
everywhere else the rules that are to be served next stay as they were in the host and in the
candidate. So no rule has its turn before all rules of smaller order for its site were served.
-/

namespace SpineGrammar

/-! ## The rule that comes next at a site -/

/-- `q.Succeeds r rules`: of the rules for the site of `r` that are not `r` itself, `q` has the
    least order, and those before it have a larger one. -/
def Rule.Succeeds (q r : Rule) (rules : List Rule) : Prop :=
  q.site = r.site ∧ q ≠ r ∧ ∃ before after, rules = before ++ q :: after ∧
    (∀ p ∈ before, p ≠ r → p.site = r.site → q.order < p.order) ∧
    ∀ p ∈ after, p ≠ r → p.site = r.site → q.order ≤ p.order

variable {rules : List Rule} {p q r : Rule}

/-- A rule is foremost after `r` was taken out if `r` alone could keep it back. -/
theorem foremost_filter_ne_iff : q.Foremost (rules.filter (· ≠ r)) ↔
    q ≠ r ∧ ∃ before after, rules = before ++ q :: after ∧
      (∀ p ∈ before, p ≠ r → p.site = q.site → q.order < p.order) ∧
      ∀ p ∈ after, p ≠ r → p.site = q.site → q.order ≤ p.order := by
  constructor
  · rintro ⟨before, after, hsplit, hbefore, hafter⟩
    -- The rules before and after are what the filter left of the parts of the whole list.
    obtain ⟨left, right, rfl, rfl, hright⟩ := List.filter_eq_append_iff.1 hsplit
    obtain ⟨gap, rest, rfl, hgap, hq, rfl⟩ := List.filter_eq_cons_iff.1 hright
    refine ⟨of_decide_eq_true hq, left ++ gap, rest, (List.append_assoc ..).symm, ?_, ?_⟩
    · intro p hp hne
      rcases List.mem_append.1 hp with hp | hp
      · exact hbefore p (List.mem_filter.2 ⟨hp, decide_eq_true hne⟩)
      · exact absurd (decide_eq_true hne) (hgap p hp)
    · exact fun p hp hne => hafter p (List.mem_filter.2 ⟨hp, decide_eq_true hne⟩)
  · rintro ⟨hne, before, after, rfl, hbefore, hafter⟩
    refine ⟨before.filter (· ≠ r), after.filter (· ≠ r), ?_, ?_, ?_⟩
    · rw [List.filter_append, List.filter_cons_of_pos (by simpa using hne)]
    · intro p hp
      obtain ⟨hp, hne⟩ := List.mem_filter.1 hp
      exact hbefore p hp (of_decide_eq_true hne)
    · intro p hp
      obtain ⟨hp, hne⟩ := List.mem_filter.1 hp
      exact hafter p hp (of_decide_eq_true hne)

theorem succeeds_iff : q.Succeeds r rules ↔
    q.site = r.site ∧ q.Foremost (rules.filter (· ≠ r)) := by
  rw [foremost_filter_ne_iff, Rule.Succeeds]
  refine and_congr_right fun hsite => ?_
  rw [hsite]

/-- One rule at most comes next. -/
theorem Rule.Succeeds.unique (hp : p.Succeeds r rules) (hq : q.Succeeds r rules) : p = q := by
  obtain ⟨hpsite, hp⟩ := succeeds_iff.1 hp
  obtain ⟨hqsite, hq⟩ := succeeds_iff.1 hq
  exact hp.eq_of_site_eq hq (hpsite.trans hqsite.symm)

/-- A rule comes next if any is left for the site. -/
theorem exists_succeeds (hp : p ∈ rules) (hne : p ≠ r) (hsite : p.site = r.site) :
    ∃ q : Rule, q.Succeeds r rules := by
  have hkept : p ∈ rules.filter (· ≠ r) := List.mem_filter.2 ⟨hp, decide_eq_true hne⟩
  obtain ⟨q, hq, hqsite, _⟩ := exists_applicable_le hkept
  exact ⟨q, succeeds_iff.2 ⟨hqsite.trans hsite, mem_applicable.1 hq⟩⟩

/-- Taking out a rule brings in the one that comes next and changes nothing else. -/
theorem mem_applicable_filter_ne : p ∈ applicable (rules.filter (· ≠ r)) ↔
    (p ∈ applicable rules ∧ p ≠ r) ∨ p.Succeeds r rules := by
  rw [mem_applicable, mem_applicable]
  constructor
  · intro h
    by_cases hsite : p.site = r.site
    · exact .inr (succeeds_iff.2 ⟨hsite, h⟩)
    · -- A rule for another site never waited for `r`.
      obtain ⟨hne, before, after, rfl, hbefore, hafter⟩ := foremost_filter_ne_iff.1 h
      have hother : ∀ q : Rule, q.site = p.site → q ≠ r := by
        rintro q hq rfl
        exact hsite hq.symm
      exact .inl ⟨⟨before, after, rfl, fun q hq hqsite => hbefore q hq (hother q hqsite) hqsite,
        fun q hq hqsite => hafter q hq (hother q hqsite) hqsite⟩, hne⟩
  · rintro (⟨h, hne⟩ | h)
    · exact h.filter (decide_eq_true hne)
    · exact (succeeds_iff.1 h).2

/-- When a rule is taken out, either another one is left for its site, and the one that comes next
    is brought in, or none is, and no rule is brought in. -/
theorem applicable_filter_ne_cases (rules : List Rule) (r : Rule) :
    (∃ q : Rule, q.Succeeds r rules ∧ ∀ p, p ∈ applicable (rules.filter (· ≠ r)) ↔
      (p ∈ applicable rules ∧ p ≠ r) ∨ p = q) ∨
    ((∀ p ∈ rules, p.site = r.site → p = r) ∧ ∀ p, p ∈ applicable (rules.filter (· ≠ r)) ↔
      p ∈ applicable rules ∧ p ≠ r) := by
  by_cases hrival : ∃ p ∈ rules, p.site = r.site ∧ p ≠ r
  · obtain ⟨p, hp, hsite, hne⟩ := hrival
    obtain ⟨q, hq⟩ := exists_succeeds hp hne hsite
    refine .inl ⟨q, hq, fun p => ?_⟩
    rw [mem_applicable_filter_ne]
    exact or_congr_right ⟨fun hp => hp.unique hq, fun heq => heq ▸ hq⟩
  · have hnone : ∀ p ∈ rules, p.site = r.site → p = r := by
      intro p hp hsite
      by_contra hne
      exact hrival ⟨p, hp, hsite, hne⟩
    refine .inr ⟨hnone, fun p => ?_⟩
    rw [mem_applicable_filter_ne]
    refine ⟨?_, .inl⟩
    rintro (hp | ⟨hsite, hne, before, after, rfl, _⟩)
    · exact hp
    · exact absurd (hnone p (List.mem_append_right _ List.mem_cons_self) hsite) hne

/-! ## One insertion -/

namespace Tree

variable {t t₀ d c x : Tree} {log : List Insertion} {id k owner : Nat} {n : Node}

/-- The rules of a node of the host after an insertion. -/
theorem Attaches.exists_rules_host (h : d.Attaches c (owner, r) x) (hn : d.node id = .ok n) :
    ∃ n', x.node id = .ok n' ∧
      n'.rules = if id = owner then n.rules.filter (· ≠ r) else n.rules := by
  obtain ⟨target, i, _, _, _, rfl⟩ := h.exists_spliced
  exact ⟨_, node_spliced_of_lt hn, rfl⟩

/-- The rules of a node of the candidate after an insertion. -/
theorem Attaches.exists_rules_candidate (h : d.Attaches c (owner, r) x) (hn : c.node k = .ok n) :
    ∃ n', x.node (k + d.nodes.size) = .ok n' ∧ n'.rules = n.rules :=
  ⟨_, h.node_candidate hn, Node.rules_copied⟩

/-- The rules that are to be served next at a node of the host after an insertion. -/
theorem Attaches.mem_applicable_host (h : d.Attaches c (owner, r) x) {n' : Node}
    (hn : d.node id = .ok n) (hn' : x.node id = .ok n') : p ∈ applicable n'.rules ↔
      (p ∈ applicable n.rules ∧ (id, p) ≠ (owner, r)) ∨ (id = owner ∧ p.Succeeds r n.rules) := by
  obtain ⟨m, hm, hrules⟩ := h.exists_rules_host hn
  obtain rfl := Except.ok.inj (hn'.symm.trans hm)
  by_cases howner : id = owner
  · rw [hrules, if_pos howner, mem_applicable_filter_ne]
    simp [howner]
  · rw [hrules, if_neg howner]
    simp [howner]

/-- What waits in a result: what waits in the candidate, what waited in the host but for the served
    rule, and the rule that comes next at its site. -/
theorem Attaches.waits_iff (h : d.Attaches c (owner, r) x) (hd : d.Sound) (hc : c.Sound)
    (hn : d.node owner = .ok n) : x.Waits (id, p) ↔
      (∃ k, c.Waits (k, p) ∧ k + d.nodes.size = id) ∨
      (d.Waits (id, p) ∧ (id, p) ≠ (owner, r)) ∨ (id = owner ∧ p.Succeeds r n.rules) := by
  constructor
  · rintro ⟨hid, n', hn', hp⟩
    rcases (h.reaches_iff hd hc).1 hid with hid | ⟨k, hk, rfl⟩
    · obtain ⟨old, _, hold⟩ := hd.toIsTree.exists_node_of_reaches hid
      rcases (h.mem_applicable_host hold hn').1 hp with ⟨hp, hne⟩ | ⟨rfl, hnext⟩
      · exact .inr (.inl ⟨⟨hid, old, hold, hp⟩, hne⟩)
      · obtain rfl := Except.ok.inj (hn.symm.trans hold)
        exact .inr (.inr ⟨rfl, hnext⟩)
    · obtain ⟨old, _, hold⟩ := hc.toIsTree.exists_node_of_reaches hk
      obtain ⟨m, hm, hrules⟩ := h.exists_rules_candidate hold
      obtain rfl := Except.ok.inj (hn'.symm.trans hm)
      rw [hrules] at hp
      exact .inl ⟨k, ⟨hk, old, hold, hp⟩, rfl⟩
  · rintro (⟨k, ⟨hk, old, hold, hp⟩, rfl⟩ | ⟨⟨hid, old, hold, hp⟩, hne⟩ | ⟨rfl, hnext⟩)
    · obtain ⟨m, hm, hrules⟩ := h.exists_rules_candidate hold
      exact ⟨(h.reaches_iff hd hc).2 (.inr ⟨k, hk, rfl⟩), m, hm, by rw [hrules]; exact hp⟩
    · obtain ⟨m, hm, _⟩ := h.exists_rules_host hold
      exact ⟨(h.reaches_iff hd hc).2 (.inl hid), m, hm,
        (h.mem_applicable_host hold hm).2 (.inl ⟨hp, hne⟩)⟩
    · obtain ⟨m, hm, _⟩ := h.exists_rules_host hn
      exact ⟨(h.reaches_iff hd hc).2 (.inl (h.reaches_owner hd hc)), m, hm,
        (h.mem_applicable_host hn hm).2 (.inr ⟨rfl, hnext⟩)⟩

/-- The labels that a tree waits for are those of the rules that are to be served next. -/
theorem Sound.mem_openLabels_iff (h : t.Sound) {labels : SortedSet String}
    (hlabels : t.openLabels = .ok labels) {label : String} :
    label ∈ labels ↔ ∃ site, t.Waits site ∧ site.2.pos = label := by
  obtain ⟨b, hunfold, hb⟩ := h.exists_denotes
  rw [openLabels, applicableRules, depthFirst_eq_ok hunfold, ok_bind, pure_eq_ok, ok_bind,
    pure_eq_ok, Except.ok.injEq] at hlabels
  subst hlabels
  rw [SortedSet.mem_ofList, List.mem_map]
  constructor
  · rintro ⟨p, hp, hlabel⟩
    obtain ⟨place, hplace, hp⟩ := List.mem_flatMap.1 hp
    obtain ⟨a, s, hs, rfl⟩ := Branch.mem_depthFirst.1 hplace
    exact ⟨(s.id, p), ⟨hb.reaches_iff.2 (Branch.id_mem_of_at? hs), s.data, (hb.at? hs).node, hp⟩,
      hlabel⟩
  · rintro ⟨⟨id, p⟩, ⟨hid, n, hn, hp⟩, hlabel⟩
    obtain ⟨a, s, hs, rfl⟩ := Branch.mem_ids.1 (hb.reaches_iff.1 hid)
    obtain rfl := Except.ok.inj ((hb.at? hs).node.symm.trans hn)
    exact ⟨p, List.mem_flatMap.2 ⟨_, Branch.mem_depthFirst.2 ⟨a, s, hs, rfl⟩, hp⟩, hlabel⟩

/-- The labels that a result waits for. -/
theorem Attaches.mem_openLabels_iff (h : d.Attaches c (owner, r) x) (hd : d.Sound) (hc : c.Sound)
    (hn : d.node owner = .ok n) {labels labels' : SortedSet String}
    (hlabels : c.openLabels = .ok labels) (hlabels' : x.openLabels = .ok labels') {label : String} :
    label ∈ labels' ↔
      label ∈ labels ∨ (∃ site, d.Waits site ∧ site ≠ (owner, r) ∧ site.2.pos = label) ∨
        ∃ q : Rule, q.Succeeds r n.rules ∧ q.pos = label := by
  rw [(h.sound hd hc).mem_openLabels_iff hlabels', hc.mem_openLabels_iff hlabels]
  constructor
  · rintro ⟨⟨id, p⟩, hwaits, rfl⟩
    rcases (h.waits_iff hd hc hn).1 hwaits with ⟨k, hk, _⟩ | ⟨hold, hne⟩ | ⟨_, hnext⟩
    · exact .inl ⟨(k, p), hk, rfl⟩
    · exact .inr (.inl ⟨(id, p), hold, hne, rfl⟩)
    · exact .inr (.inr ⟨p, hnext, rfl⟩)
  · rintro (⟨⟨k, p⟩, hk, rfl⟩ | ⟨⟨id, p⟩, hold, hne, rfl⟩ | ⟨q, hnext, rfl⟩)
    · exact ⟨(k + d.nodes.size, p), (h.waits_iff hd hc hn).2 (.inl ⟨k, hk, rfl⟩), rfl⟩
    · exact ⟨(id, p), (h.waits_iff hd hc hn).2 (.inr (.inl ⟨hold, hne⟩)), rfl⟩
    · exact ⟨(owner, q), (h.waits_iff hd hc hn).2 (.inr (.inr ⟨rfl, hnext⟩)), rfl⟩

/-- `d.FrontierChange c x owner r`: which rules are to be served next in `x`, at every node of `d`
    and of the copy of `c`, and which labels `x` waits for, after the rule `r` of `owner` was served
    with `c`. -/
structure FrontierChange (d c x : Tree) (owner : Nat) (r : Rule) : Prop where
  others : ∀ id n, id ≠ owner → d.node id = .ok n →
    ∃ n', x.node id = .ok n' ∧ applicable n'.rules = applicable n.rules
  copies : ∀ k n, c.node k = .ok n →
    ∃ n', x.node (k + d.nodes.size) = .ok n' ∧ applicable n'.rules = applicable n.rules
  /-- At the owner the served rule gives way to the one that comes next at its site, if any. -/
  at_owner : ∃ n n', d.node owner = .ok n ∧ x.node owner = .ok n' ∧ r ∈ applicable n.rules ∧
    ((∃ q : Rule, q.Succeeds r n.rules ∧
        ∀ p, p ∈ applicable n'.rules ↔ (p ∈ applicable n.rules ∧ p ≠ r) ∨ p = q) ∨
      ((∀ p ∈ n.rules, p.site = r.site → p = r) ∧
        ∀ p, p ∈ applicable n'.rules ↔ p ∈ applicable n.rules ∧ p ≠ r))
  labels : ∃ n labels labels', d.node owner = .ok n ∧ c.openLabels = .ok labels ∧
    x.openLabels = .ok labels' ∧ ∀ label, label ∈ labels' ↔
      label ∈ labels ∨ (∃ site, d.Waits site ∧ site ≠ (owner, r) ∧ site.2.pos = label) ∨
        ∃ q : Rule, q.Succeeds r n.rules ∧ q.pos = label

theorem Attaches.frontierChange (h : d.Attaches c (owner, r) x) (hd : d.Sound) (hc : c.Sound) :
    d.FrontierChange c x owner r := by
  obtain ⟨n, hn, hforemost⟩ := h.foremost hd hc
  refine ⟨?_, ?_, ?_, ?_⟩
  · intro id m hother hm
    obtain ⟨n', hn', hrules⟩ := h.exists_rules_host hm
    exact ⟨n', hn', by rw [hrules, if_neg hother]⟩
  · intro k m hm
    obtain ⟨n', hn', hrules⟩ := h.exists_rules_candidate hm
    exact ⟨n', hn', by rw [hrules]⟩
  · obtain ⟨n', hn', hrules⟩ := h.exists_rules_host hn
    rw [if_pos rfl] at hrules
    refine ⟨n, n', hn, hn', mem_applicable.2 hforemost, ?_⟩
    rw [hrules]
    exact applicable_filter_ne_cases n.rules r
  · obtain ⟨labels, hlabels⟩ := hc.exists_openLabels
    obtain ⟨labels', hlabels'⟩ := (h.sound hd hc).exists_openLabels
    exact ⟨n, labels, labels', hn, hlabels, hlabels',
      fun label => h.mem_openLabels_iff hd hc hn hlabels hlabels'⟩

/-! ## Runs -/

/-- What every derivation of a history keeps: its nodes are those of the trees that came in, each
    with the rules that the history has not served. -/
structure Remaining (t₀ : Tree) (log : List Insertion) (x : Tree) : Prop where
  size_eq : (t₀.sideBySide log).nodes.size = x.nodes.size
  owner_lt : ∀ e ∈ log, e.owner < x.nodes.size
  rules : ∀ id n, x.node id = .ok n → ∃ own, (t₀.sideBySide log).node id = .ok own ∧
    ∀ p, p ∈ n.rules ↔ p ∈ own.rules ∧ ∀ e ∈ log, e.owner = id → e.rule ≠ p

/-- The step: the rule that an insertion serves is the only one that is taken out. -/
theorem Remaining.step (h : t₀.Remaining log d) (hattaches : d.Attaches c (owner, r) x) :
    t₀.Remaining (log ++ [⟨c, owner, r, c.root + d.nodes.size⟩]) x := by
  obtain ⟨target, i, _, howner, htarget, rfl⟩ := hattaches.exists_spliced
  have hsize : (d.spliced c r owner target i).nodes.size = d.nodes.size + c.nodes.size :=
    size_spliced
  refine ⟨?_, ?_, ?_⟩
  · rw [sideBySide_append, size_extend, h.size_eq, hsize]
  · rw [hsize]
    refine List.forall_mem_append.2 ⟨fun e he => Nat.lt_add_right _ (h.owner_lt e he), ?_⟩
    intro e he
    rw [List.mem_singleton.1 he]
    exact Nat.lt_add_right _ howner
  · intro id n hn
    have hid := lt_of_node_eq_ok hn
    rw [hsize] at hid
    rw [sideBySide_append]
    simp only [List.forall_mem_append, List.forall_mem_singleton]
    by_cases hhosted : id < d.nodes.size
    · obtain ⟨old, _, hold⟩ := exists_node hhosted
      obtain rfl := Except.ok.inj (hn.symm.trans (node_spliced_of_lt hold))
      obtain ⟨own, hown, hrules⟩ := h.rules id old hold
      refine ⟨own, ?_, fun p => ?_⟩
      · rw [node_extend_of_lt _ _ (h.size_eq ▸ hhosted), hown]
      · rw [Node.mem_rules_afterInsertion, hrules, and_assoc]
        have hserved : (id, p) ≠ (owner, r) ↔ (owner = id → r ≠ p) := by grind
        rw [hserved]
    · -- A node of the candidate, which owned none of the served rules.
      obtain ⟨k, rfl⟩ : ∃ k, id = k + d.nodes.size := ⟨id - d.nodes.size, by omega⟩
      obtain ⟨old, _, hold⟩ := exists_node (show k < c.nodes.size by omega)
      obtain rfl := Except.ok.inj (hn.symm.trans (node_spliced_add howner htarget hold))
      refine ⟨old.shift d.nodes.size, ?_, fun p => ?_⟩
      · rw [← h.size_eq, node_extend_shift hold]
      · rw [Node.rules_copied]
        refine ⟨fun hp => ⟨hp, fun e he heq => ?_, fun heq => ?_⟩, fun hp => hp.1⟩
        · have hlt := h.owner_lt e he
          omega
        · omega

/-- The run: a derivation has the rules that its history has not served. -/
theorem Grows.remaining (h : t₀.Grows log x) : t₀.Remaining log x := by
  induction h with
  | start =>
    refine ⟨rfl, fun _ he => absurd he List.not_mem_nil, fun id n hn => ⟨n, hn, fun p => ?_⟩⟩
    exact ⟨fun hp => ⟨hp, fun _ he => absurd he List.not_mem_nil⟩, fun hp => hp.1⟩
  | step _ hattaches ih => exact ih.step hattaches

/-- A rule has its turn after all rules of smaller order for its site. -/
theorem Remaining.exists_served (h : t₀.Remaining log x) (hn : x.node id = .ok n) {own : Node}
    (hown : (t₀.sideBySide log).node id = .ok own) (hq : q ∈ applicable n.rules)
    (hp : p ∈ own.rules) (hsite : p.site = q.site) (horder : p.order < q.order) :
    ∃ e ∈ log, e.owner = id ∧ e.rule = p := by
  obtain ⟨own', hown', hrules⟩ := h.rules id n hn
  obtain rfl := Except.ok.inj (hown.symm.trans hown')
  by_contra hnone
  -- A rule that was not served is still there and would come first.
  have hleft : p ∈ n.rules := (hrules p).2
    ⟨hp, fun e he howner hrule => hnone ⟨e, he, howner, hrule⟩⟩
  have hle := (mem_applicable.1 hq).order_le hleft hsite
  omega

end Tree

/-- **Frontier**: an insertion changes what is to be served next at one site only, where the rule of
    the next order takes the place of the served one; so the labels that the result waits for are
    told by those of the two trees and by the rules of that site. In a derivation that a history of
    insertions leads to, a node has the rules that it came with but for those served, and a rule has
    its turn only after all rules of smaller order for its site were served. -/
theorem frontier_after_insertion :
    (∀ (d c x : Tree) (owner : Nat) (r : Rule), d.Sound → c.Sound → d.Attaches c (owner, r) x →
      d.FrontierChange c x owner r) ∧
    ∀ (t₀ x : Tree) (log : List Insertion), t₀.Grows log x → ∀ id n, x.node id = .ok n →
      ∃ own, (t₀.sideBySide log).node id = .ok own ∧
        (∀ p, p ∈ n.rules ↔ p ∈ own.rules ∧ ∀ e ∈ log, e.owner = id → e.rule ≠ p) ∧
        ∀ q ∈ applicable n.rules, ∀ p ∈ own.rules, p.site = q.site → p.order < q.order →
          ∃ e ∈ log, e.owner = id ∧ e.rule = p := by
  refine ⟨fun d c x owner r hd hc h => h.frontierChange hd hc, ?_⟩
  intro t₀ x log hgrows id n hn
  have hremaining := hgrows.remaining
  obtain ⟨own, hown, hrules⟩ := hremaining.rules id n hn
  exact ⟨own, hown, hrules, fun q hq p hp hsite horder =>
    hremaining.exists_served hn hown hq hp hsite horder⟩

/-- The rule for a prepositional phrase behind the object. -/
def prepositionRule : Rule :=
  { nounRule [] .right with pos := "PP", location := ⟨[], .right, 1⟩ }

/-- A verb phrase that waits for an object and then for a prepositional phrase. -/
def Tree.ditransitive : Tree :=
  ⟨#[.plain "VP" [nounRule [] .right, prepositionRule] [.leaf "put"]], 0⟩

/-- With its object the verb phrase waits for the prepositional phrase. -/
theorem frontier_after_insertion_ditransitive :
    Tree.ditransitive.Sound ∧ Tree.noun.Sound ∧ ∃ x,
      Tree.ditransitive.Attaches .noun (0, nounRule [] .right) x ∧
      Tree.ditransitive.FrontierChange .noun x 0 (nounRule [] .right) ∧
      Tree.ditransitive.Grows [⟨.noun, 0, nounRule [] .right, 1⟩] x ∧
      ∃ n, x.node 0 = .ok n ∧ applicable n.rules = [prepositionRule] ∧
        ∃ own, (Tree.ditransitive.sideBySide [⟨.noun, 0, nounRule [] .right, 1⟩]).node 0 = .ok own ∧
          (∀ p, p ∈ n.rules ↔ p ∈ own.rules ∧
            ∀ e ∈ [Insertion.mk .noun 0 (nounRule [] .right) 1], e.owner = 0 → e.rule ≠ p) ∧
          ∀ q ∈ applicable n.rules, ∀ p ∈ own.rules, p.site = q.site → p.order < q.order →
            ∃ e ∈ [Insertion.mk .noun 0 (nounRule [] .right) 1], e.owner = 0 ∧ e.rule = p := by
  have hditransitive : Tree.ditransitive.Sound := by decide
  have hnoun : Tree.noun.Sound := by decide
  let x := Tree.ditransitive.spliced .noun (nounRule [] .right) 0 0 1
  have hattaches : Tree.ditransitive.Attaches .noun (0, nounRule [] .right) x := by
    decide +kernel
  have hgrows : Tree.ditransitive.Grows [⟨.noun, 0, nounRule [] .right, 1⟩] x :=
    Tree.Grows.start.step hattaches
  obtain ⟨n, hn, hnext⟩ : ∃ n, x.node 0 = .ok n ∧ applicable n.rules = [prepositionRule] := by
    decide +kernel
  exact ⟨hditransitive, hnoun, x, hattaches,
    frontier_after_insertion.1 _ _ _ _ _ hditransitive hnoun hattaches, hgrows, n, hn, hnext,
    frontier_after_insertion.2 _ _ _ hgrows 0 n hn⟩

end SpineGrammar
