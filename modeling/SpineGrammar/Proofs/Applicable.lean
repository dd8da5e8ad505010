import Mathlib.Data.List.Induction
import Mathlib.Data.List.Nodup
import SpineGrammar.Rule

/-!
# Which rules are served next

`applicable` picks, for each site that the rules of a node name, the foremost rule: the one of least
order, and of these the first. The picked rules come in the order in which their sites first appear.
No other list is like that.
-/

namespace SpineGrammar

/-- Among the rules for its site, `r` has the least order, and those before it have a larger one. -/
def Rule.Foremost (r : Rule) (rules : List Rule) : Prop :=
  ∃ before after, rules = before ++ r :: after ∧
    (∀ p ∈ before, p.site = r.site → r.order < p.order) ∧
    ∀ p ∈ after, p.site = r.site → r.order ≤ p.order

/-- The place in a list of rules at which a site first appears. -/
def firstAppearance (rules : List Rule) (site : Address × Slot) : Nat :=
  rules.findIdx (·.site = site)

variable {rules picked picked' : List Rule} {r p : Rule}

theorem applicable_append_singleton (rules : List Rule) (r : Rule) :
    applicable (rules ++ [r]) = contend r (applicable rules) := by
  rw [applicable, List.foldl_append]
  rfl

/-! ## Sites -/

/-- A new rule adds its site, unless a rival is there. -/
theorem map_site_contend (r : Rule) (picked : List Rule) :
    (contend r picked).map Rule.site =
      if r.site ∈ picked.map Rule.site then picked.map Rule.site
      else picked.map Rule.site ++ [r.site] := by
  induction picked with
  | nil => rfl
  | cons p picked ih =>
    rw [contend]
    by_cases hsite : p.site = r.site
    · rw [if_pos hsite, List.map_cons, List.map_cons, ← hsite, if_pos List.mem_cons_self]
      by_cases horder : r.order < p.order
      · rw [if_pos horder, hsite]
      · rw [if_neg horder]
    · rw [if_neg hsite, List.map_cons, ih, List.map_cons]
      by_cases hmem : r.site ∈ picked.map Rule.site
      · rw [if_pos hmem, if_pos (List.mem_cons_of_mem _ hmem)]
      · have hnew : r.site ∉ p.site :: picked.map Rule.site := by
          rw [List.mem_cons, not_or]
          exact ⟨Ne.symm hsite, hmem⟩
        rw [if_neg hmem, if_neg hnew]
        rfl

/-- The picked rules have the same sites as all rules. -/
theorem mem_map_site_applicable {site : Address × Slot} :
    site ∈ (applicable rules).map Rule.site ↔ site ∈ rules.map Rule.site := by
  induction rules using List.reverseRecOn with
  | nil => exact Iff.rfl
  | append_singleton rules r ih =>
    rw [applicable_append_singleton, map_site_contend, List.map_append, List.mem_append, ← ih]
    by_cases hmem : r.site ∈ (applicable rules).map Rule.site
    · rw [if_pos hmem]
      constructor
      · exact Or.inl
      · rintro (h | h)
        · exact h
        · rw [List.mem_singleton.1 h]
          exact hmem
    · rw [if_neg hmem, List.mem_append]
      rfl

theorem applicable_eq_nil_iff : applicable rules = [] ↔ rules = [] := by
  have hempty : (applicable rules).map Rule.site = [] ↔ rules.map Rule.site = [] := by
    simp only [List.eq_nil_iff_forall_not_mem, mem_map_site_applicable]
  rw [List.map_eq_nil_iff, List.map_eq_nil_iff] at hempty
  exact hempty

theorem firstAppearance_lt {site : Address × Slot} (h : site ∈ rules.map Rule.site) :
    firstAppearance rules site < rules.length := by
  obtain ⟨p, hp, rfl⟩ := List.mem_map.1 h
  exact List.findIdx_lt_length_of_exists ⟨p, hp, decide_eq_true rfl⟩

theorem firstAppearance_append {site : Address × Slot} (h : site ∈ rules.map Rule.site)
    (r : Rule) : firstAppearance (rules ++ [r]) site = firstAppearance rules site := by
  rw [firstAppearance, List.findIdx_append]
  exact if_pos (firstAppearance_lt h)

theorem firstAppearance_append_new {site : Address × Slot} (h : site ∉ rules.map Rule.site)
    (r : Rule) : rules.length ≤ firstAppearance (rules ++ [r]) site := by
  have hnone : rules.findIdx (·.site = site) = rules.length := by
    apply List.findIdx_eq_length_of_false
    intro p hp
    exact decide_eq_false fun hsite => h (List.mem_map.2 ⟨p, hp, hsite⟩)
  rw [firstAppearance, List.findIdx_append, hnone, if_neg (Nat.lt_irrefl _)]
  exact Nat.le_add_left _ _

/-- Sites come in the order of their first appearance. -/
theorem pairwise_site_applicable (rules : List Rule) :
    ((applicable rules).map Rule.site).Pairwise fun u v =>
      firstAppearance rules u < firstAppearance rules v := by
  induction rules using List.reverseRecOn with
  | nil => exact .nil
  | append_singleton rules r ih =>
    -- The sites that were there keep their first appearance.
    have hold : ((applicable rules).map Rule.site).Pairwise fun u v =>
        firstAppearance (rules ++ [r]) u < firstAppearance (rules ++ [r]) v := by
      refine ih.imp_of_mem ?_
      intro u v hu hv hlt
      rw [firstAppearance_append (mem_map_site_applicable.1 hu),
        firstAppearance_append (mem_map_site_applicable.1 hv)]
      exact hlt
    rw [applicable_append_singleton, map_site_contend]
    by_cases hmem : r.site ∈ (applicable rules).map Rule.site
    · rw [if_pos hmem]
      exact hold
    · -- A new site first appears behind all others.
      rw [if_neg hmem, List.pairwise_append]
      refine ⟨hold, List.pairwise_singleton _ _, ?_⟩
      intro u hu v hv
      rw [List.mem_singleton.1 hv]
      rw [mem_map_site_applicable] at hu hmem
      rw [firstAppearance_append hu]
      exact Nat.lt_of_lt_of_le (firstAppearance_lt hu) (firstAppearance_append_new hmem r)

theorem nodup_map_site_applicable (rules : List Rule) :
    ((applicable rules).map Rule.site).Nodup := by
  refine (pairwise_site_applicable rules).imp ?_
  rintro u _ hlt rfl
  exact Nat.lt_irrefl _ hlt

theorem pairwise_applicable (rules : List Rule) :
    (applicable rules).Pairwise fun r p =>
      firstAppearance rules r.site < firstAppearance rules p.site := by
  have h := pairwise_site_applicable rules
  rw [List.pairwise_map] at h
  exact h

/-! ## Foremost rules -/

/-- Who is picked after a rule has entered: those that it does not displace, and the rule itself if
    it comes before all its rivals. -/
theorem mem_contend (hsites : (picked.map Rule.site).Nodup) :
    p ∈ contend r picked ↔ (p ∈ picked ∧ (p.site = r.site → p.order ≤ r.order)) ∨
      (p = r ∧ ∀ q ∈ picked, q.site = r.site → r.order < q.order) := by
  induction picked with
  | nil => simp [contend]
  | cons q picked ih =>
    obtain ⟨hq, hpicked⟩ := List.nodup_cons.1 hsites
    rw [contend]
    by_cases hsite : q.site = r.site
    · -- The only rival is `q`.
      have hothers : ∀ p ∈ picked, p.site ≠ r.site := fun p hp heq =>
        hq (List.mem_map.2 ⟨p, hp, heq.trans hsite.symm⟩)
      rw [if_pos hsite]
      by_cases horder : r.order < q.order
      · grind
      · grind
    · rw [if_neg hsite, List.mem_cons, ih hpicked]
      grind

theorem foremost_append_singleton : p.Foremost (rules ++ [r]) ↔
    (p.Foremost rules ∧ (p.site = r.site → p.order ≤ r.order)) ∨
      (p = r ∧ ∀ q ∈ rules, q.site = r.site → r.order < q.order) := by
  constructor
  · rintro ⟨before, after, heq, hbefore, hafter⟩
    -- The last rule is `p` itself, or it comes after `p`.
    rcases List.eq_nil_or_concat after with rfl | ⟨after, last, rfl⟩
    · obtain ⟨rfl, hlast⟩ := List.append_inj' heq rfl
      obtain rfl : r = p := List.head_eq_of_cons_eq hlast
      exact .inr ⟨rfl, hbefore⟩
    · rw [List.concat_eq_append, ← List.cons_append, ← List.append_assoc] at heq
      obtain ⟨rfl, hlast⟩ := List.append_inj' heq rfl
      obtain rfl : r = last := List.head_eq_of_cons_eq hlast
      rw [List.concat_eq_append] at hafter
      refine .inl ⟨⟨before, after, rfl, hbefore, ?_⟩, ?_⟩
      · exact fun q hq => hafter q (List.mem_append_left _ hq)
      · exact fun hsite =>
          hafter r (List.mem_append_right _ (List.mem_singleton_self r)) hsite.symm
  · rintro (⟨⟨before, after, rfl, hbefore, hafter⟩, hr⟩ | ⟨rfl, hbefore⟩)
    · refine ⟨before, after ++ [r], by simp, hbefore, ?_⟩
      intro q hq hsite
      rcases List.mem_append.1 hq with hq | hq
      · exact hafter q hq hsite
      · rw [List.mem_singleton.1 hq] at hsite ⊢
        exact hr hsite.symm
    · exact ⟨rules, [], rfl, hbefore, fun q hq => nomatch hq⟩

/-- The rule that enters is picked, or a rival that comes before it stays. -/
theorem exists_contend_le_self (r : Rule) (picked : List Rule) :
    ∃ q ∈ contend r picked, q.site = r.site ∧ q.order ≤ r.order := by
  induction picked with
  | nil => exact ⟨r, List.mem_singleton_self r, rfl, Nat.le_refl _⟩
  | cons p picked ih =>
    rw [contend]
    by_cases hsite : p.site = r.site
    · rw [if_pos hsite]
      by_cases horder : r.order < p.order
      · rw [if_pos horder]
        exact ⟨r, List.mem_cons_self, rfl, Nat.le_refl _⟩
      · rw [if_neg horder]
        exact ⟨p, List.mem_cons_self, hsite, Nat.le_of_not_lt horder⟩
    · rw [if_neg hsite]
      obtain ⟨q, hq, hbest⟩ := ih
      exact ⟨q, List.mem_cons_of_mem _ hq, hbest⟩

/-- A picked rule stays, or gives way to a rival that comes before it. -/
theorem exists_contend_le (hp : p ∈ picked) (r : Rule) :
    ∃ q ∈ contend r picked, q.site = p.site ∧ q.order ≤ p.order := by
  induction picked with
  | nil => cases hp
  | cons p' picked ih =>
    rw [contend]
    by_cases hsite : p'.site = r.site
    · rw [if_pos hsite]
      rcases List.mem_cons.1 hp with rfl | hp
      · by_cases horder : r.order < p.order
        · rw [if_pos horder]
          exact ⟨r, List.mem_cons_self, hsite.symm, Nat.le_of_lt horder⟩
        · rw [if_neg horder]
          exact ⟨p, List.mem_cons_self, rfl, Nat.le_refl _⟩
      · exact ⟨p, List.mem_cons_of_mem _ hp, rfl, Nat.le_refl _⟩
    · rw [if_neg hsite]
      rcases List.mem_cons.1 hp with rfl | hp
      · exact ⟨p, List.mem_cons_self, rfl, Nat.le_refl _⟩
      · obtain ⟨q, hq, hbest⟩ := ih hp
        exact ⟨q, List.mem_cons_of_mem _ hq, hbest⟩

/-- Each rule is picked or has a picked rival that comes before it. -/
theorem exists_applicable_le (h : r ∈ rules) :
    ∃ p ∈ applicable rules, p.site = r.site ∧ p.order ≤ r.order := by
  induction rules using List.reverseRecOn with
  | nil => cases h
  | append_singleton rules q ih =>
    rw [applicable_append_singleton]
    rcases List.mem_append.1 h with h | h
    · obtain ⟨p, hp, hsite, horder⟩ := ih h
      obtain ⟨p', hp', hsite', horder'⟩ := exists_contend_le hp q
      exact ⟨p', hp', hsite'.trans hsite, Nat.le_trans horder' horder⟩
    · rw [List.mem_singleton.1 h]
      exact exists_contend_le_self q (applicable rules)

theorem Rule.Foremost.mem (h : r.Foremost rules) : r ∈ rules := by
  obtain ⟨before, after, rfl, _, _⟩ := h
  exact List.mem_append_right _ List.mem_cons_self

/-- A foremost rule has the least order of its rivals. -/
theorem Rule.Foremost.order_le (h : r.Foremost rules) (hp : p ∈ rules) (hsite : p.site = r.site) :
    r.order ≤ p.order := by
  obtain ⟨before, after, rfl, hbefore, hafter⟩ := h
  rcases List.mem_append.1 hp with hp | hp
  · exact Nat.le_of_lt (hbefore p hp hsite)
  · rcases List.mem_cons.1 hp with rfl | hp
    · exact Nat.le_refl _
    · exact hafter p hp hsite

/-- The picked rules are the foremost ones. -/
theorem mem_applicable : r ∈ applicable rules ↔ r.Foremost rules := by
  induction rules using List.reverseRecOn generalizing r with
  | nil => simp [applicable, Rule.Foremost]
  | append_singleton rules q ih =>
    -- To come before all picked rivals is to come before all rivals.
    have hrivals : (∀ p ∈ applicable rules, p.site = q.site → q.order < p.order) ↔
        ∀ p ∈ rules, p.site = q.site → q.order < p.order := by
      constructor
      · intro hpicked p hp hsite
        obtain ⟨p', hp', hsite', hle⟩ := exists_applicable_le hp
        exact Nat.lt_of_lt_of_le (hpicked p' hp' (hsite'.trans hsite)) hle
      · intro hall p hp
        exact hall p (ih.1 hp).mem
    rw [applicable_append_singleton, mem_contend (nodup_map_site_applicable rules),
      foremost_append_singleton, ih, hrivals]

/-- One rule at most is foremost for a site. -/
theorem Rule.Foremost.eq_of_site_eq (hr : r.Foremost rules) (hp : p.Foremost rules)
    (hsite : r.site = p.site) : r = p :=
  List.inj_on_of_nodup_map (nodup_map_site_applicable rules) (mem_applicable.2 hr)
    (mem_applicable.2 hp) hsite

/-- A foremost rule that stays is foremost among those that stay. -/
theorem Rule.Foremost.filter (h : r.Foremost rules) {keep : Rule → Bool} (hr : keep r = true) :
    r.Foremost (rules.filter keep) := by
  obtain ⟨before, after, rfl, hbefore, hafter⟩ := h
  refine ⟨before.filter keep, after.filter keep, ?_, ?_, ?_⟩
  · rw [List.filter_append, List.filter_cons_of_pos hr]
  · intro q hq hsite
    exact hbefore q (List.mem_of_mem_filter hq) hsite
  · intro q hq hsite
    exact hafter q (List.mem_of_mem_filter hq) hsite

/-! ## The picked rules as a whole -/

/-- `PicksNext rules picked`: of the rules of a node, `picked` has the one to be served next at each
    site. -/
structure PicksNext (rules picked : List Rule) : Prop where
  /-- No two picked rules compete for one site. -/
  sites_nodup : (picked.map Rule.site).Nodup
  /-- Each site that a rule names has a picked rule. -/
  covers : ∀ r ∈ rules, ∃ p ∈ picked, p.site = r.site
  /-- A picked rule has the least order for its site, and is the first of those that have it. -/
  foremost : ∀ p ∈ picked, p.Foremost rules
  /-- The picked rules come by the first rule for their site, which need not be the picked one. -/
  in_order : picked.Pairwise fun p q =>
    firstAppearance rules p.site < firstAppearance rules q.site

theorem picksNext_applicable (rules : List Rule) : PicksNext rules (applicable rules) where
  sites_nodup := nodup_map_site_applicable rules
  covers := by
    intro r hr
    obtain ⟨p, hp, hsite, _⟩ := exists_applicable_le hr
    exact ⟨p, hp, hsite⟩
  foremost := fun _ hp => mem_applicable.1 hp
  in_order := pairwise_applicable rules

theorem PicksNext.mem_iff (h : PicksNext rules picked) : p ∈ picked ↔ p.Foremost rules := by
  constructor
  · exact h.foremost p
  · intro hp
    -- The rule that is picked for the site of `p` is foremost there, too.
    obtain ⟨q, hq, hsite⟩ := h.covers p hp.mem
    have heq : q = p := (h.foremost q hq).eq_of_site_eq hp hsite
    rw [← heq]
    exact hq

/-- One list at most picks the next rules: it has the foremost rules, each once, and their sites say
    in which order. -/
theorem PicksNext.unique (h : PicksNext rules picked) (h' : PicksNext rules picked') :
    picked = picked' := by
  have hperm : picked.Perm picked' := by
    rw [List.perm_ext_iff_of_nodup h.sites_nodup.of_map h'.sites_nodup.of_map]
    intro p
    rw [h.mem_iff, h'.mem_iff]
  refine hperm.eq_of_pairwise ?_ h.in_order h'.in_order
  intro p q _ _ hlt hgt
  exact absurd hgt (Nat.lt_asymm hlt)

/-- **Next rules**: what is served next at a node is the one list that has, for each site that the
    node's rules name, the first of the rules of least order, by the first appearance of the
    sites. -/
theorem picksNext_iff_eq_applicable : PicksNext rules picked ↔ picked = applicable rules := by
  constructor
  · intro h
    exact h.unique (picksNext_applicable rules)
  · rintro rfl
    exact picksNext_applicable rules

example :
    let rule : String → Slot → Nat → Rule := fun pos slot order =>
      ⟨.attach, pos, ⟨[], slot, order⟩, none, none, .empty⟩
    applicable [rule "JJ" .left 1, rule "PP" .right 0, rule "DT" .left 0, rule "NN" .left 0] =
      [rule "DT" .left 0, rule "PP" .right 0] := by decide

end SpineGrammar
