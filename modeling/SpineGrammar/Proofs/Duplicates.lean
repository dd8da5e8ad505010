import SpineGrammar.Proofs.BracketedText
import SpineGrammar.Proofs.RuleText
import SpineGrammar.Proofs.Successors
import SpineGrammar.Proofs.Whitelist

/-!
# Duplicates

Of the trees that pass, a grammar keeps the first with each fingerprint, which is the bracketed text
followed by the rules of all nodes in depth-first order. Where labels and words are tokens and rules
are plain, a fingerprint tells the shape, the labels, the words and that list of rules. It does not
tell where in the tree one node's rules end and the next node's start. So of two trees whose nodes
carry equally many rules the fingerprint tells all, but a rule that stands higher in one tree than
in another is not told from it.
-/

namespace SpineGrammar

/-! ## Keeping the first of each -/

/-- `KeepsFirst Same ts kept`: of the trees `ts`, taken from the left, `kept` has just those that
    are not the same as one kept before. -/
inductive KeepsFirst (Same : Tree → Tree → Prop) : List Tree → List Tree → Prop where
  | nil : KeepsFirst Same [] []
  | keep {ts kept : List Tree} {t : Tree} :
      KeepsFirst Same ts kept → (∀ u ∈ kept, ¬ Same u t) →
      KeepsFirst Same (ts ++ [t]) (kept ++ [t])
  | drop {ts kept : List Tree} {t u : Tree} :
      KeepsFirst Same ts kept → u ∈ kept → Same u t → KeepsFirst Same (ts ++ [t]) kept

section Keeping

variable {Same Same' : Tree → Tree → Prop} {ts kept rest : List Tree}

theorem KeepsFirst.subset (h : KeepsFirst Same ts kept) : kept ⊆ ts := by
  induction h with
  | nil => exact List.Subset.refl _
  | keep _ _ ih =>
    exact List.append_subset.2
      ⟨List.subset_append_of_subset_left _ ih, List.subset_append_right _ _⟩
  | drop _ _ _ ih => exact List.subset_append_of_subset_left _ ih

/-- It depends on which of the trees are the same only. -/
theorem KeepsFirst.congr (h : KeepsFirst Same ts kept)
    (hsame : ∀ t ∈ ts, ∀ u ∈ ts, Same u t ↔ Same' u t) : KeepsFirst Same' ts kept := by
  induction h with
  | nil => exact .nil
  | keep hkeeps hnew ih =>
    have hinner := ih fun t ht u hu =>
      hsame t (List.mem_append_left _ ht) u (List.mem_append_left _ hu)
    refine .keep hinner ?_
    intro u hu hsame'
    exact hnew u hu ((hsame _ List.mem_concat_self u
      (List.mem_append_left _ (hkeeps.subset hu))).2 hsame')
  | drop hkeeps hu hold ih =>
    have hinner := ih fun t ht u hu =>
      hsame t (List.mem_append_left _ ht) u (List.mem_append_left _ hu)
    exact .drop hinner hu ((hsame _ List.mem_concat_self _
      (List.mem_append_left _ (hkeeps.subset hu))).1 hold)

theorem keepsFirst_concat_iff {t : Tree} : KeepsFirst Same (ts ++ [t]) kept ↔
    ∃ old, KeepsFirst Same ts old ∧
      ((∀ u ∈ old, ¬ Same u t) ∧ kept = old ++ [t] ∨ (∃ u ∈ old, Same u t) ∧ kept = old) := by
  constructor
  · intro h
    generalize hlist : ts ++ [t] = all at h
    cases h with
    | nil => simp at hlist
    | keep hkeeps hnew =>
      obtain ⟨rfl, hlast⟩ := List.append_inj' hlist rfl
      obtain rfl := List.singleton_inj.1 hlast
      exact ⟨_, hkeeps, .inl ⟨hnew, rfl⟩⟩
    | drop hkeeps hu hold =>
      obtain ⟨rfl, hlast⟩ := List.append_inj' hlist rfl
      obtain rfl := List.singleton_inj.1 hlast
      exact ⟨_, hkeeps, .inr ⟨⟨_, hu, hold⟩, rfl⟩⟩
  · intro h
    obtain ⟨old, hkeeps, hlast⟩ := h
    rcases hlast with ⟨hnew, rfl⟩ | ⟨⟨u, hu, hold⟩, rfl⟩
    · exact .keep hkeeps hnew
    · exact .drop hkeeps hu hold

/-- Which trees are the same tells which are kept. -/
theorem KeepsFirst.unique {kept' : List Tree} (h : KeepsFirst Same ts kept)
    (h' : KeepsFirst Same ts kept') : kept = kept' := by
  induction ts using List.reverseRecOn generalizing kept kept' with
  | nil => rw [List.subset_nil.1 h.subset, List.subset_nil.1 h'.subset]
  | append_singleton ts t ih =>
    obtain ⟨old, hkeeps, hlast⟩ := keepsFirst_concat_iff.1 h
    obtain ⟨old', hkeeps', hlast'⟩ := keepsFirst_concat_iff.1 h'
    obtain rfl := ih hkeeps hkeeps'
    rcases hlast with ⟨hnew, rfl⟩ | ⟨hold, rfl⟩ <;> rcases hlast' with ⟨hnew', rfl⟩ | ⟨hold', rfl⟩
    · rfl
    · obtain ⟨u, hu, hsame⟩ := hold'
      exact absurd hsame (hnew u hu)
    · obtain ⟨u, hu, hsame⟩ := hold
      exact absurd hsame (hnew' u hu)
    · rfl

/-- What is kept of a list is kept of a longer one, before anything else. -/
theorem KeepsFirst.exists_start {more : List Tree} (h : KeepsFirst Same (ts ++ more) rest) :
    ∃ kept, KeepsFirst Same ts kept ∧ kept <+: rest := by
  induction more using List.reverseRecOn generalizing rest with
  | nil => exact ⟨rest, by rwa [List.append_nil] at h, List.prefix_refl _⟩
  | append_singleton more t ih =>
    rw [← List.append_assoc] at h
    obtain ⟨old, hkeeps, hlast⟩ := keepsFirst_concat_iff.1 h
    obtain ⟨kept, hkept, hprefix⟩ := ih hkeeps
    refine ⟨kept, hkept, ?_⟩
    rcases hlast with ⟨_, rfl⟩ | ⟨_, rfl⟩
    · exact hprefix.trans (List.prefix_append _ _)
    · exact hprefix

/-- Every tree is the same as one that is kept. -/
theorem KeepsFirst.exists_mem (h : KeepsFirst Same ts kept) (hself : ∀ t ∈ ts, Same t t)
    {t : Tree} (ht : t ∈ ts) : ∃ u ∈ kept, Same u t := by
  induction h with
  | nil => cases ht
  | @keep ts kept last hkeeps _ ih =>
    rcases List.mem_append.1 ht with ht | ht
    · obtain ⟨u, hu, hsame⟩ := ih (fun t ht => hself t (List.mem_append_left _ ht)) ht
      exact ⟨u, List.mem_append_left _ hu, hsame⟩
    · obtain rfl := List.mem_singleton.1 ht
      exact ⟨t, List.mem_concat_self, hself t List.mem_concat_self⟩
  | drop hkeeps hu hold ih =>
    rcases List.mem_append.1 ht with ht | ht
    · exact ih (fun t ht => hself t (List.mem_append_left _ ht)) ht
    · obtain rfl := List.mem_singleton.1 ht
      exact ⟨_, hu, hold⟩

/-- Trees that are the same as some that are kept are dropped. -/
theorem KeepsFirst.append {more : List Tree} (h : KeepsFirst Same ts kept)
    (hmore : ∀ t ∈ more, ∃ u ∈ kept, Same u t) : KeepsFirst Same (ts ++ more) kept := by
  induction more generalizing ts with
  | nil => rwa [List.append_nil]
  | cons t more ih =>
    obtain ⟨u, hu, hsame⟩ := hmore t List.mem_cons_self
    rw [List.append_cons]
    exact ih (.drop h hu hsame) fun t ht => hmore t (List.mem_cons_of_mem _ ht)

variable {key : Tree → Checked String} {seen : List String}

/-- Trees that have a key in common. -/
def SameKey (key : Tree → Checked String) (t u : Tree) : Prop := ∃ k, key t = .ok k ∧ key u = .ok k

/-- What is kept of a list is a choice of the first of each key, where the keys that were seen are
    those of the trees that were kept before. -/
theorem keepsFirst_append {before old : List Tree} (hbefore : KeepsFirst (SameKey key) before old)
    (hseen : ∀ k, k ∈ seen ↔ ∃ u ∈ old, key u = .ok k)
    (h : Grammar.firstOfEach key seen ts = .ok rest) :
    KeepsFirst (SameKey key) (before ++ ts) (old ++ rest) := by
  induction ts generalizing before old seen rest with
  | nil =>
    obtain rfl := Except.ok.inj h
    rw [List.append_nil, List.append_nil]
    exact hbefore
  | cons t ts ih =>
    obtain ⟨k, hk, h⟩ := bind_eq_ok_iff.1 h
    rw [List.append_cons before t ts]
    by_cases hcontains : seen.contains k = true
    · -- The key was seen, so the tree that brought it was kept.
      rw [if_pos hcontains] at h
      obtain ⟨u, hu, hkey⟩ := (hseen k).1 (List.contains_iff_mem.1 hcontains)
      exact ih (.drop hbefore hu ⟨k, hkey, hk⟩) hseen h
    · rw [if_neg hcontains] at h
      obtain ⟨rest', hrest, h⟩ := bind_eq_ok_iff.1 h
      obtain rfl := Except.ok.inj h
      rw [List.append_cons old t rest']
      -- The tree is new, and from here on its key counts as seen.
      refine ih (.keep hbefore ?_) ?_ hrest
      · intro u hu hsame
        obtain ⟨k', hu', ht⟩ := hsame
        obtain rfl : k = k' := Except.ok.inj (hk.symm.trans ht)
        exact hcontains (List.contains_iff_mem.2 ((hseen k).2 ⟨u, hu, hu'⟩))
      · intro k'
        simp only [List.mem_cons, hseen, List.mem_append, List.not_mem_nil, or_false, or_and_right,
          exists_or, exists_eq_left, hk, Except.ok.injEq]
        rw [or_comm, eq_comm]

/-- The first of each key can be chosen where every tree has a key. -/
theorem exists_firstOfEach (seen : List String) (hkey : ∀ t ∈ ts, ∃ k, key t = .ok k) :
    ∃ rest, Grammar.firstOfEach key seen ts = .ok rest := by
  induction ts generalizing seen with
  | nil => exact ⟨[], rfl⟩
  | cons t ts ih =>
    obtain ⟨k, hk⟩ := hkey t List.mem_cons_self
    have hlater : ∀ u ∈ ts, ∃ k, key u = .ok k := fun u hu => hkey u (List.mem_cons_of_mem t hu)
    rw [Grammar.firstOfEach, hk, ok_bind]
    split
    · exact ih seen hlater
    · obtain ⟨rest, hrest⟩ := ih (k :: seen) hlater
      exact ⟨t :: rest, by rw [hrest]; rfl⟩

/-- What is kept of trees that all have a key is the first of each key. -/
theorem firstOfEach_eq_ok_iff (hkey : ∀ t ∈ ts, ∃ k, key t = .ok k) :
    Grammar.firstOfEach key [] ts = .ok kept ↔ KeepsFirst (SameKey key) ts kept := by
  constructor
  · intro h
    exact keepsFirst_append .nil (by simp) h
  · intro h
    obtain ⟨kept', hkept'⟩ := exists_firstOfEach [] hkey
    rw [hkept', h.unique (keepsFirst_append .nil (by simp) hkept')]
    rfl

end Keeping

/-! ## What a fingerprint tells -/

/-- A node with tokens and plain rules. -/
def Node.Plain (n : Node) : Prop := n.Tokens ∧ ∀ r ∈ n.rules, r.Plain

instance (n : Node) : Decidable n.Plain :=
  inferInstanceAs (Decidable (n.Tokens ∧ ∀ r ∈ n.rules, r.Plain))

/-- Nodes with one label and with the same rules, in all that their text shows. -/
def Node.SameRules (n n' : Node) : Prop :=
  n.label = n'.label ∧ n.rules.map Rule.shown = n'.rules.map Rule.shown

instance : DecidableRel Node.SameRules := fun n n' =>
  inferInstanceAs (Decidable
    (n.label = n'.label ∧ n.rules.map Rule.shown = n'.rules.map Rule.shown))

/-- Nodes with equally many rules. -/
def Node.SameCount (n n' : Node) : Prop := n.rules.length = n'.rules.length

instance : DecidableRel Node.SameCount := fun n n' =>
  inferInstanceAs (Decidable (n.rules.length = n'.rules.length))

section Fingerprints

variable {t u : Tree} {b c : Branch}

/-- Trees of one shape with the same labels and words, whose rules are the same when those of all
    nodes are listed in depth-first order. -/
def Tree.SameListing (t u : Tree) : Prop :=
  t.Alike Node.SameLabel u ∧
    ∃ rs rs', t.allRules = .ok rs ∧ u.allRules = .ok rs' ∧ rs.map Rule.shown = rs'.map Rule.shown

theorem Tree.allRules_eq (hb : t.unfold = .ok b) : t.allRules = .ok b.rules := by
  rw [allRules, depthFirst_eq_ok hb]
  rfl

theorem Tree.fingerprint_eq (hb : t.unfold = .ok b) :
    t.fingerprint = .ok (b.text ++ " [" ++ "; ".intercalate (b.rules.map Rule.text) ++ "]") := by
  rw [fingerprint, text, hb, allRules_eq hb]
  rfl

theorem Tree.Sound.exists_plain (ht : t.Sound) (hplain : ∀ n ∈ t.nodes, n.Plain) :
    ∃ b, t.unfold = .ok b ∧ b.Tokens ∧ ∀ r ∈ b.rules, r.Plain := by
  obtain ⟨b, hunfold, hb⟩ := ht.exists_denotes
  refine ⟨b, hunfold, ?_, ?_⟩
  · refine hb.tokens ?_
    intro id _ n hn
    exact (hplain n (mem_of_node_eq_ok hn)).1
  · intro r hr
    obtain ⟨p, hp, hr⟩ := List.mem_flatMap.1 hr
    obtain ⟨a, s, hs, rfl⟩ := Branch.mem_depthFirst.1 hp
    exact (hplain s.data (mem_of_node_eq_ok (hb.at? hs).node)).2 r hr

/-- The fingerprint of a plain tree tells its shape, labels and words and the list of its rules. -/
theorem Tree.Sound.sameKey_fingerprint_iff (ht : t.Sound) (hu : u.Sound)
    (htplain : ∀ n ∈ t.nodes, n.Plain) (huplain : ∀ n ∈ u.nodes, n.Plain) :
    SameKey fingerprint t u ↔ t.SameListing u := by
  obtain ⟨b, hunfold, htokens, hrules⟩ := ht.exists_plain htplain
  obtain ⟨c, hunfold', htokens', hrules'⟩ := hu.exists_plain huplain
  have hkeys : SameKey fingerprint t u ↔
      b.text ++ " [" ++ "; ".intercalate (b.rules.map Rule.text) ++ "]" =
        c.text ++ " [" ++ "; ".intercalate (c.rules.map Rule.text) ++ "]" := by
    simp only [SameKey, fingerprint_eq hunfold, fingerprint_eq hunfold', Except.ok.injEq,
      exists_eq_left']
    exact eq_comm
  have hlisting : t.SameListing u ↔
      b.Alike Node.SameLabel c ∧ b.rules.map Rule.shown = c.rules.map Rule.shown := by
    simp only [SameListing, Alike, hunfold, hunfold', allRules_eq hunfold, allRules_eq hunfold',
      Except.ok.injEq, exists_eq_left', exists_and_left]
  rw [hkeys, hlisting, ← Rule.intercalate_text_eq_iff hrules hrules', ← String.toList_inj]
  simp only [String.toList_append, List.append_assoc]
  rw [Branch.text_append_inj_iff htokens htokens', List.append_cancel_left_eq,
    List.append_cancel_right_eq, String.toList_inj]

/-! ## Rules at their nodes -/

/-- The rules of all nodes in depth-first order. -/
def Forest.rules (f : Forest) : List Rule := f.gather (fun _ => []) fun _ n => n.rules

theorem Branch.rules_eq (b : Branch) : b.rules = b.data.rules ++ b.below.rules :=
  b.rules_eq_gather

variable {f g : Forest} {R R' : Node → Node → Prop}

theorem Forest.Alike.mono (h : f.Alike R g) (hR : ∀ n n', R n n' → R' n n') : f.Alike R' g := by
  induction h with
  | nil => exact .nil
  | leaf _ ih => exact .leaf ih
  | node hn _ _ ihbelow ihrest => exact .node (hR _ _ hn) ihbelow ihrest

theorem Branch.Alike.mono (h : b.Alike R c) (hR : ∀ n n', R n n' → R' n n') : b.Alike R' c :=
  ⟨hR _ _ h.data, h.below.mono hR⟩

/-- What is shown of the rules of one node is a start of a list that others follow. -/
theorem map_shown_append_inj {n n' : Node} {xs ys : List Rule} (hcount : n.SameCount n')
    (h : (n.rules ++ xs).map Rule.shown = (n'.rules ++ ys).map Rule.shown) :
    n.rules.map Rule.shown = n'.rules.map Rule.shown ∧ xs.map Rule.shown = ys.map Rule.shown := by
  rw [List.map_append, List.map_append] at h
  refine List.append_inj h ?_
  rw [List.length_map, List.length_map, hcount]

/-- If nodes that correspond carry equally many rules, the list of all rules tells which node
    carries which. -/
theorem Forest.Alike.sameRules_append {xs ys : List Rule} (hlabel : f.Alike Node.SameLabel g)
    (hcount : f.Alike Node.SameCount g)
    (h : (f.rules ++ xs).map Rule.shown = (g.rules ++ ys).map Rule.shown) :
    f.Alike Node.SameRules g ∧ xs.map Rule.shown = ys.map Rule.shown := by
  induction hlabel generalizing xs ys with
  | nil => exact ⟨.nil, h⟩
  | leaf _ ih =>
    cases hcount with
    | leaf hcount =>
      obtain ⟨hrest, hlists⟩ := ih hcount h
      exact ⟨.leaf hrest, hlists⟩
  | @node _ _ n n' below below' rest rest' hn _ _ ihbelow ihrest =>
    cases hcount with
    | node hcount hbelow hrest =>
      -- The list starts with the node's own rules, and both nodes have equally many.
      have hnode : (n.rules ++ (below.rules ++ (rest.rules ++ xs))).map Rule.shown =
          (n'.rules ++ (below'.rules ++ (rest'.rules ++ ys))).map Rule.shown := by
        simpa only [rules, gather, List.append_assoc] using h
      obtain ⟨hrules, h⟩ := map_shown_append_inj hcount hnode
      obtain ⟨hbelow, h⟩ := ihbelow hbelow h
      obtain ⟨hrest, h⟩ := ihrest hrest h
      exact ⟨.node ⟨hn, hrules⟩ hbelow hrest, h⟩

theorem Forest.Alike.map_shown_eq (h : f.Alike Node.SameRules g) :
    f.rules.map Rule.shown = g.rules.map Rule.shown := by
  induction h with
  | nil => rfl
  | leaf _ ih => exact ih
  | node hn _ _ ihbelow ihrest =>
    unfold rules at ihbelow ihrest ⊢
    simp only [gather, List.map_append, hn.2, ihbelow, ihrest]

/-- Trees are the same at every node just if they have one shape, the same labels and words, equally
    many rules at every node and the same list of rules. -/
theorem Tree.alike_sameRules_iff (hcount : t.Alike Node.SameLabel u → t.Alike Node.SameCount u) :
    t.Alike Node.SameRules u ↔ t.SameListing u := by
  constructor
  · intro h
    obtain ⟨b, hb, c, hc, hbranch⟩ := h
    refine ⟨⟨b, hb, c, hc, hbranch.mono fun _ _ hn => hn.1⟩, b.rules, c.rules, allRules_eq hb,
      allRules_eq hc, ?_⟩
    rw [b.rules_eq, c.rules_eq, List.map_append, List.map_append, hbranch.data.2,
      hbranch.below.map_shown_eq]
  · intro h
    obtain ⟨halike, rs, rs', hrs, hrs', hlists⟩ := h
    have hcounts := hcount halike
    obtain ⟨b, hb, c, hc, hlabel⟩ := halike
    obtain ⟨b', hb', c', hc', hcount⟩ := hcounts
    obtain rfl := Except.ok.inj (hb.symm.trans hb')
    obtain rfl := Except.ok.inj (hc.symm.trans hc')
    obtain rfl := Except.ok.inj (hrs.symm.trans (allRules_eq hb))
    obtain rfl := Except.ok.inj (hrs'.symm.trans (allRules_eq hc))
    rw [b.rules_eq, c.rules_eq] at hlists
    obtain ⟨hroot, hbelow⟩ := map_shown_append_inj hcount.data hlists
    rw [← List.append_nil b.below.rules, ← List.append_nil c.below.rules] at hbelow
    have hnodes := hlabel.below.sameRules_append hcount.below hbelow
    exact ⟨b, hb, c, hc, ⟨hlabel.data, hroot⟩, hnodes.1⟩

end Fingerprints

/-! ## Grammars without duplicates -/

namespace Grammar

variable {config : Config} {m : Matcher} {records : List TreeRecord} {g : Grammar}

/-- Dropping duplicates takes out of the grammar that the records give otherwise all but the first
    of each fingerprint. -/
theorem exists_keepsFirst (h : ofRecords records { config with dedupe := true } m = .ok g) :
    ∃ all, ofRecords records { config with dedupe := false } m = .ok all ∧
      (∀ t ∈ all.trees, t.Sound) ∧ KeepsFirst (SameKey Tree.fingerprint) all.trees g.trees := by
  obtain ⟨patterns, trees, passed, kept, hpatterns, htrees, hpassed, hkept, hg⟩ :=
    ofRecords_eq_ok_iff.1 h
  have hsound : ∀ t ∈ passed, t.Sound := by
    intro t ht
    obtain ⟨_, hfiltered⟩ := filterM_eq_ok_iff.1 hpassed
    rw [hfiltered] at ht
    exact sound_of_mem_recordTrees htrees (List.mem_filter.1 ht).1
  obtain ⟨all, hall⟩ := exists_ofTrees hsound config.startLabel
  refine ⟨all, ?_, ?_, ?_⟩
  · exact ofRecords_eq_ok_iff.2
      ⟨patterns, trees, passed, passed, hpatterns, htrees, hpassed, rfl, hall⟩
  · rw [trees_of_ofTrees hall]
    exact hsound
  · rw [trees_of_ofTrees hall, trees_of_ofTrees hg]
    exact keepsFirst_append .nil (by simp) hkept

end Grammar

/-- **Duplicates**: with duplicates dropped, records give the grammar that they give otherwise, less
    the trees that are not the first of their kind. If labels and words are tokens and rules are
    plain, trees of one kind have one shape, the same labels and words and the same rules, listed in
    depth-first order; and if moreover trees of one shape carry equally many rules at nodes that
    correspond, they have the same rules at each node. -/
theorem duplicates_share_listing {records : List TreeRecord} {config : Config} {m : Matcher}
    {g : Grammar} (h : Grammar.ofRecords records { config with dedupe := true } m = .ok g) :
    ∃ all, Grammar.ofRecords records { config with dedupe := false } m = .ok all ∧
      ((∀ t ∈ all.trees, ∀ n ∈ t.nodes, n.Plain) →
        KeepsFirst Tree.SameListing all.trees g.trees ∧
        ((∀ t ∈ all.trees, ∀ u ∈ all.trees,
            u.Alike Node.SameLabel t → u.Alike Node.SameCount t) →
          KeepsFirst (Tree.Alike Node.SameRules) all.trees g.trees)) := by
  obtain ⟨all, hall, hsound, hkeeps⟩ := Grammar.exists_keepsFirst h
  refine ⟨all, hall, ?_⟩
  intro hplain
  have hlisting : KeepsFirst Tree.SameListing all.trees g.trees := by
    refine hkeeps.congr ?_
    intro t ht u hu
    exact (hsound u hu).sameKey_fingerprint_iff (hsound t ht) (hplain u hu) (hplain t ht)
  refine ⟨hlisting, ?_⟩
  intro hcount
  refine hlisting.congr ?_
  intro t ht u hu
  exact (Tree.alike_sameRules_iff (hcount t ht u hu)).symm

/-- Of a clause that two records describe one is kept, with the noun phrase. -/
theorem duplicates_share_listing_clause :
    Grammar.ofRecords [clauseRecord [], clauseRecord [], nounRecord]
        { Config.default with dedupe := true } = .ok sleepGrammar ∧
    KeepsFirst (Tree.Alike Node.SameRules) [.sleepClause, .sleepClause, .noun]
      [.sleepClause, .noun] := by
  have hkept : Grammar.ofRecords [clauseRecord [], clauseRecord [], nounRecord]
      { Config.default with dedupe := true } = .ok sleepGrammar := by
    decide +kernel
  have hevery : Grammar.ofRecords [clauseRecord [], clauseRecord [], nounRecord]
      { Config.default with dedupe := false } =
        .ok ⟨[("S", .sleepClause), ("S", .sleepClause), ("NP", .noun)], "S"⟩ := by
    decide +kernel
  obtain ⟨all, hall, hkeeps⟩ := duplicates_share_listing hkept
  obtain rfl := Except.ok.inj (hevery.symm.trans hall)
  refine ⟨hkept, (hkeeps ?_).2 ?_⟩
  · decide +kernel
  · decide +kernel

/-- The clause that waits for its subject at its verb phrase. -/
def Tree.loweredClause : Tree where
  nodes := #[.plain "S" [] [.node 1], .plain "VP" [nounRule [] .left] [.leaf "sleep"]]
  root := 0

/-- Whether its rule stands at the clause or at the verb phrase does not tell a tree, so the second
    of the two is dropped, although the one that is kept has no such rule at that node. -/
theorem lowered_rule_is_dropped :
    ∃ all g, Grammar.ofRecords [clauseRecord [], clauseRecord [0]]
        { Config.default with dedupe := false } = .ok all ∧
      Grammar.ofRecords [clauseRecord [], clauseRecord [0]]
        { Config.default with dedupe := true } = .ok g ∧
      .loweredClause ∈ all.trees ∧ ∀ u ∈ g.trees, ¬ u.Alike Node.SameRules .loweredClause := by
  refine ⟨⟨[("S", .sleepClause), ("S", .loweredClause)], "S"⟩, ⟨[("S", .sleepClause)], "S"⟩,
    ?_, ?_, ?_, ?_⟩
  · decide +kernel
  · decide +kernel
  · decide +kernel
  · decide +kernel

end SpineGrammar
