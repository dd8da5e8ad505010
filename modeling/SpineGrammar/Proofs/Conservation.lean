import Mathlib.Data.Set.Card
import SpineGrammar.Proofs.Soundness

/-!
# Conservation of words, nodes and rules

An insertion adds the candidate's words in one piece, its nodes, and all its rules, and takes the
rule that it serves. Over a run, a derivation has the words of all trees that were brought in, those
of each in their order, and their rules but one for each insertion.
-/

namespace SpineGrammar

open scoped List

/-! ## One insertion -/

/-- Taking a rule from a list without repetition takes just this rule. -/
theorem cons_filter_ne_perm {rules : List Rule} {r : Rule} (hrules : rules.Nodup)
    (hr : r ∈ rules) : r :: rules.filter (· ≠ r) ~ rules := by
  have hcons : (r :: rules.filter (· ≠ r)).Nodup := by
    refine List.nodup_cons.2 ⟨?_, hrules.filter _⟩
    intro hmem
    exact of_decide_eq_true (List.mem_filter.1 hmem).2 rfl
  rw [List.perm_ext_iff_of_nodup hcons hrules]
  intro p
  rw [List.mem_cons, List.mem_filter, decide_eq_true_iff]
  constructor
  · rintro (rfl | ⟨hp, _⟩)
    · exact hr
    · exact hp
  · intro hp
    by_cases heq : p = r
    · exact .inl heq
    · exact .inr ⟨hp, heq⟩

namespace Branch

variable {b g s m x : Branch} {a : Address} {r : Rule} {i k : Nat}

/-- The open rules in depth-first order. -/
def rules (b : Branch) : List Rule := b.depthFirst.flatMap fun p => p.data.rules

theorem rules_eq_gather (b : Branch) :
    b.rules = b.gather (fun _ => []) (fun _ n => n.rules) :=
  b.flatMap_depthFirst fun _ n => n.rules

theorem rules_argument (g : Branch) : (g.argument k r).rules = g.rules := by
  rw [rules_eq_gather, rules_eq_gather, argument, gather, Forest.gather_shift]
  rfl

theorem words_argument (g : Branch) : (g.argument k r).words = g.words := by
  rw [words_eq_gather, words_eq_gather, argument, gather, Forest.gather_shift]
  rfl

/-- The words of the argument come in one piece between the words before. -/
theorem Serves.words_inserted (h : b.Serves a r s m i) (hids : b.ids.Nodup) :
    ∃ before after, b.words = before ++ after ∧
      (b.inserted r s.id m.id i x).words = before ++ x.words ++ after := by
  simp only [words_eq_gather]
  exact h.exists_gather_inserted hids _ _ (fun _ _ => rfl) (fun _ => rfl)

theorem rules_data_grown (s : Branch) (target : Nat) :
    (s.grown target i x).data.rules = s.data.rules := by
  unfold grown editAt
  split <;> rfl

/-- The rules of the result and the one that was served are the rules of both. -/
theorem Serves.rules_inserted (h : b.Serves a r s m i) (hids : b.ids.Nodup)
    (hinserted : (b.inserted r s.id m.id i x).ids.Nodup) (hr : r ∈ s.data.rules)
    (hrules : s.data.rules.Nodup) :
    (r :: (b.inserted r s.id m.id i x).rules).Perm (b.rules ++ x.rules) := by
  obtain ⟨left, right, hb, hgrown⟩ := h.exists_gather_grown (x := x) hids (fun _ => [])
    (fun _ n => n.rules) (fun _ _ => rfl)
  rw [ids_inserted] at hinserted
  obtain ⟨before, after, hbefore, htaken⟩ := exists_gather_features (h.at?_grown (x := x) hids)
    hinserted (fun _ => []) (fun _ n => n.rules)
  have hid : (s.grown m.id i x).id = s.id := id_editAt s
  -- The owner's rules stand between the same rules before and after `r` is taken.
  have htaken := htaken (·.consumeRule r)
  rw [hid, Node.consumeRule, rules_data_grown] at htaken
  rw [rules_data_grown] at hbefore
  rw [rules_eq_gather, rules_eq_gather, rules_eq_gather, inserted, htaken]
  have howner := cons_filter_ne_perm hrules hr
  calc r :: (before ++ s.data.rules.filter (· ≠ r) ++ after)
      _ = r :: (before ++ (s.data.rules.filter (· ≠ r) ++ after)) := by rw [List.append_assoc]
      _ ~ before ++ ((r :: s.data.rules.filter (· ≠ r)) ++ after) := List.perm_middle.symm
      _ ~ before ++ (s.data.rules ++ after) := (howner.append_right after).append_left before
      _ = left ++ x.gather (fun _ => []) (fun _ n => n.rules) ++ right := by
        rw [← List.append_assoc, ← hbefore, hgrown]
      _ ~ left ++ right ++ x.gather (fun _ => []) (fun _ n => n.rules) := by
        rw [List.append_assoc, List.append_assoc]
        exact List.perm_append_comm.append_left left
      _ = b.gather (fun _ => []) (fun _ n => n.rules) ++
          x.gather (fun _ => []) (fun _ n => n.rules) := by rw [hb]

end Branch

namespace Tree

variable {t d c x : Tree} {b g : Branch}

theorem Denotes.words_eq (h : t.Denotes b) (ht : t.IsTree) : t.words = .ok b.words := by
  have hunfold : t.branchAt t.root = .ok b := h.unfold_eq ht
  rw [words, wordsUnder, hunfold]
  rfl

theorem total_eq_sum (ns : List Nat) : total ns = ns.sum := by
  induction ns with
  | nil => rfl
  | cons n ns ih => rw [total, List.sum_cons, ih]

theorem Denotes.ruleCount_eq (h : t.Denotes b) (ht : t.IsTree) :
    t.ruleCount = .ok b.rules.length := by
  rw [ruleCount, depthFirst_eq_ok (h.unfold_eq ht), Branch.rules, List.length_flatMap,
    ← total_eq_sum]
  rfl

/-- The nodes that paths lead to are as many as the branch has. -/
theorem Denotes.ncard_reaches (h : t.Denotes b) : {id | t.Reaches id}.ncard = b.ids.length := by
  have hset : {id | t.Reaches id} = (b.ids.toFinset : Set Nat) := by
    ext id
    rw [Set.mem_ofPred_eq, h.reaches_iff, Finset.mem_coe, List.mem_toFinset]
  rw [hset, Set.ncard_coe_finset, List.toFinset_card_of_nodup h.ids_nodup]

/-- `d.Joins c x`: the tree `x` has the rules of `d` and `c` but one, as many nodes as both, and the
    words of `c` in one piece between words of `d`. -/
structure Joins (d c x : Tree) : Prop where
  rules : ∃ k l m, d.ruleCount = .ok k ∧ c.ruleCount = .ok l ∧ x.ruleCount = .ok m ∧
    m + 1 = k + l
  nodes : {id | x.Reaches id}.ncard = {id | d.Reaches id}.ncard + {id | c.Reaches id}.ncard
  words : ∃ before after ws, d.words = .ok (before ++ after) ∧ c.words = .ok ws ∧
    x.words = .ok (before ++ ws ++ after)

/-- The step: every result of an insertion joins the two trees. -/
theorem Sound.joins (hd : d.Sound) (hc : c.Sound) {xs : List Tree} (hxs : d.attach c = .ok xs)
    (hx : x ∈ xs) : d.Joins c x := by
  obtain ⟨b, _, hb⟩ := hd.exists_denotes
  obtain ⟨g, _, hg⟩ := hc.exists_denotes
  obtain ⟨a, r, s, m, i, h, hforemost, rfl⟩ :=
    exists_serves_of_mem_attach hd.toIsTree hd.slotted hb hc.toIsTree hg hxs hx
  have hresult := spliced_denotes hb hg h
  have htree := isTree_spliced hd.toIsTree hc.toIsTree hb hg h
  refine ⟨?_, ?_, ?_⟩
  · have hrules := hd.rules_nodup _ (mem_of_node_eq_ok (hb.at? h.owner).node)
    have hperm := h.rules_inserted hb.ids_nodup hresult.ids_nodup hforemost.mem hrules
    have hlength := hperm.length_eq
    rw [List.length_cons, List.length_append, Branch.rules_argument] at hlength
    exact ⟨_, _, _, hb.ruleCount_eq hd.toIsTree, hg.ruleCount_eq hc.toIsTree,
      hresult.ruleCount_eq htree, hlength⟩
  · rw [hresult.ncard_reaches, hb.ncard_reaches, hg.ncard_reaches,
      (h.ids_perm hb.ids_nodup).length_eq, List.length_append, Branch.ids_argument, List.length_map]
  · obtain ⟨before, after, hbefore, hafter⟩ := h.words_inserted
      (x := g.argument d.nodes.size r) hb.ids_nodup
    rw [Branch.words_argument] at hafter
    exact ⟨before, after, g.words, hbefore ▸ hb.words_eq hd.toIsTree, hg.words_eq hc.toIsTree,
      hafter ▸ hresult.words_eq htree⟩

/-! ## Runs -/

/-- `x.MadeOf ts`: the words of `x` are those of the trees `ts`, and those of each stand in `x` in
    their order; its rules are those of the trees but one for each tree after the first. -/
structure MadeOf (x : Tree) (ts : List Tree) : Prop where
  words : ∃ ws parts, x.words = .ok ws ∧ ts.mapM Tree.words = .ok parts ∧ ws ~ parts.flatten ∧
    ∀ part ∈ parts, part.Sublist ws
  rules : ∃ k counts, x.ruleCount = .ok k ∧ ts.mapM Tree.ruleCount = .ok counts ∧
    k + ts.length = counts.sum + 1

theorem Sound.madeOf_self (h : t.Sound) : t.MadeOf [t] := by
  obtain ⟨b, _, hb⟩ := h.exists_denotes
  have hwords := hb.words_eq h.toIsTree
  have hrules := hb.ruleCount_eq h.toIsTree
  refine ⟨⟨_, [b.words], hwords, ?_, ?_, ?_⟩, _, [b.rules.length], hrules, ?_, ?_⟩
  · rw [List.mapM_cons, hwords]
    rfl
  · simp
  · simp
  · rw [List.mapM_cons, hrules]
    rfl
  · simp

/-- Inserting one more tree. -/
theorem MadeOf.joins {ts : List Tree} (h : d.MadeOf ts) (hx : d.Joins c x) :
    x.MadeOf (ts ++ [c]) := by
  obtain ⟨⟨ws, parts, hws, hparts, hperm, hsub⟩, k, counts, hk, hcounts, hsum⟩ := h
  obtain ⟨⟨k', l, m, hk', hl, hm, hrules⟩, _, before, after, cs, hbefore, hcs, hxs⟩ := hx
  obtain rfl := Except.ok.inj (hk.symm.trans hk')
  obtain rfl := Except.ok.inj (hws.symm.trans hbefore)
  refine ⟨⟨_, parts ++ [cs], hxs, ?_, ?_, ?_⟩, m, counts ++ [l], hm, ?_, ?_⟩
  · rw [List.mapM_append, hparts, ok_bind, List.mapM_cons, hcs]
    rfl
  · rw [List.flatten_append, List.flatten_singleton]
    calc before ++ cs ++ after
        _ ~ before ++ after ++ cs := by
          rw [List.append_assoc, List.append_assoc]
          exact List.perm_append_comm.append_left before
        _ ~ parts.flatten ++ cs := hperm.append_right cs
  · intro part hpart
    rcases List.mem_append.1 hpart with hpart | hpart
    · refine (hsub part hpart).trans ?_
      exact (List.sublist_append_left before cs).append (List.Sublist.refl after)
    · rw [List.mem_singleton.1 hpart, List.append_assoc]
      exact (List.sublist_append_left cs after).trans (List.sublist_append_right before _)
  · rw [List.mapM_append, hcounts, ok_bind, List.mapM_cons, hl]
    rfl
  · rw [List.length_append, List.length_singleton, List.sum_append, List.sum_singleton]
    omega

/-- A rule is to be served next as long as there is any rule. -/
theorem Sound.isComplete_eq (h : t.Sound) {k : Nat} (hk : t.ruleCount = .ok k) :
    t.isComplete = .ok (decide (k = 0)) := by
  obtain ⟨b, hunfold, hb⟩ := h.exists_denotes
  obtain rfl := Except.ok.inj ((hb.ruleCount_eq h.toIsTree).symm.trans hk)
  have hempty : (b.depthFirst.flatMap fun p => applicable p.data.rules).isEmpty =
      decide (b.rules.length = 0) := by
    rw [Bool.eq_iff_iff, List.isEmpty_iff, decide_eq_true_iff, List.length_eq_zero_iff,
      Branch.rules, List.flatMap_eq_nil_iff, List.flatMap_eq_nil_iff]
    simp only [applicable_eq_nil_iff]
  rw [isComplete, applicableRules, depthFirst_eq_ok hunfold, ← hempty]
  rfl

end Tree

namespace State

variable {s s' : State} {call : Call} {x : Tree}

/-- A state is terminal if and only if its derivation has no rule. -/
theorem phase_eq_terminal_iff (hs : s.tree = some x) (hx : x.Sound) {k : Nat}
    (hk : x.ruleCount = .ok k) : s.phase = .ok .terminal ↔ k = 0 := by
  have hcomplete := hx.isComplete_eq hk
  obtain ⟨labels, hlabels⟩ := hx.exists_openLabels
  simp only [phase, hs, hcomplete, ok_bind, decide_eq_true_eq]
  by_cases hzero : k = 0
  · simp [hzero]
  · simp only [hzero, if_false, isStalled, hlabels, pure_eq_ok, ok_bind, iff_false]
    split <;> simp

/-- A start is picked only before the start. -/
theorem tree_eq_none_of_select {sel : Selection} {t : Tree} (h : s.select sel = .ok (.initial t)) :
    s.tree = none := by
  cases sel with
  | action a =>
    obtain ⟨_, hlegal, ha⟩ := bind_eq_ok_iff.1 h
    obtain rfl := Except.ok.inj ha
    obtain ⟨tree, grammar⟩ := s
    cases tree with
    | none => rfl
    | some d =>
      obtain ⟨text, _, hrefused⟩ := bind_eq_ok_iff.1 hlegal
      cases hrefused
  | index i =>
    obtain ⟨as, has, hpick⟩ := bind_eq_ok_iff.1 h
    rw [ofChecked_eq_ok_iff] at has
    split at hpick
    · next a ha =>
      obtain rfl := Except.ok.inj hpick
      rcases mem_actions_cases has (List.mem_of_getElem? ha) with hstart | hinsertion
      · obtain ⟨_, _, hnone, _⟩ := hstart
        exact hnone
      · obtain ⟨_, _, _, _, _, heq⟩ := hinsertion
        cases heq
    · cases hpick

/-- What a call can do: start, before the start, or insert, after it. -/
theorem Step.cases (h : s.Step call s') :
    (∃ t, s.tree = none ∧ call.action = .initial t ∧ s' = { s with tree := some t }) ∨
    ∃ d t xs x, s.tree = some d ∧ call.action = .substitute t ∧ d.attach t = .ok xs ∧ x ∈ xs ∧
      s' = { s with tree := some x } := by
  obtain ⟨hselect, outcome, hexecute⟩ := h
  obtain ⟨a, ha, hexecute⟩ := bind_eq_ok_iff.1 hexecute
  obtain rfl := Except.ok.inj (hselect.symm.trans ha)
  obtain ⟨xs, hxs, hexecute⟩ := bind_eq_ok_iff.1 hexecute
  split at hexecute
  · next x hx =>
    obtain rfl := Except.ok.inj hexecute
    have hmem := List.mem_of_getElem? hx
    cases haction : call.action with
    | initial t =>
      rw [haction] at hselect hxs
      have hnone := tree_eq_none_of_select hselect
      have hxs : [t] = xs := Except.ok.inj hxs
      subst hxs
      rw [List.mem_singleton.1 hmem]
      exact .inl ⟨t, hnone, rfl, rfl⟩
    | substitute t =>
      rw [haction] at hxs
      cases htree : s.tree with
      | none =>
        rw [outcomes_of_eq_none htree] at hxs
        cases hxs
      | some d =>
        rw [outcomes_of_eq_some htree] at hxs
        exact .inr ⟨d, t, xs, x, rfl, rfl, ofChecked_eq_ok_iff.1 hxs, hmem, rfl⟩
  · cases hexecute

end State

/-- The run: the actions are a start and insertions, and the derivation is made of their trees. -/
theorem Run.madeOf {g : Grammar} {calls : List Call} {s : State} (h : Run g calls s)
    (hg : g.Sound) (hcalls : ∀ call ∈ calls, call.selection.Sound) :
    (calls = [] ∧ s.tree = none) ∨
    ∃ t₀ ts x, calls.map (·.action) = .initial t₀ :: ts.map .substitute ∧ s.tree = some x ∧
      x.MadeOf (t₀ :: ts) := by
  induction h with
  | start => exact .inl ⟨rfl, rfl⟩
  | @step calls call s s' hrun hstep ih =>
    have hbefore := fun call' hcall' => hcalls call' (List.mem_append_left _ hcall')
    have hs := hrun.sound hg hbefore
    have haction : call.action.tree.Sound :=
      (hs.select (hcalls call (List.mem_append_right _ (List.mem_singleton_self call)))).2 _
        hstep.select
    right
    rcases ih hbefore with ⟨rfl, hnone⟩ | ⟨t₀, ts, d, hactions, hd, hmade⟩
    · -- The first call starts.
      rcases hstep.cases with ⟨t, _, hinitial, rfl⟩ | ⟨d, t, xs, x, hd, _⟩
      · rw [hinitial] at haction
        exact ⟨t, [], t, by rw [List.nil_append, List.map_singleton, hinitial]; rfl, rfl,
          haction.madeOf_self⟩
      · rw [hnone] at hd
        cases hd
    · -- Each later call inserts.
      rcases hstep.cases with ⟨t, hnone, _⟩ | ⟨d', t, xs, x, hd', hsubstitute, hxs, hx, rfl⟩
      · rw [hnone] at hd
        cases hd
      · obtain rfl : d = d' := Option.some.inj (hd.symm.trans hd')
        rw [hsubstitute] at haction
        refine ⟨t₀, ts ++ [t], x, ?_, rfl, hmade.joins ((hs.tree d hd).joins haction hxs hx)⟩
        rw [List.map_append, hactions, List.map_singleton, hsubstitute, List.map_append,
          List.cons_append]
        rfl

/-- **Conservation**: a result of an insertion has the rules of both trees but one, the nodes of
    both, and the words of the candidate in one piece between those of the host. So every run that
    starts with `t₀` and inserts `ts` ends with the words of all these trees, those of each in their
    order, and with their rules but one for each insertion; it is terminal if and only if there are
    as many rules as insertions. -/
theorem runs_conserve :
    (∀ (d c : Tree) (xs : List Tree) (x : Tree), d.Sound → c.Sound → d.attach c = .ok xs →
      x ∈ xs → d.Joins c x) ∧
    (∀ (g : Grammar) (calls : List Call) (s : State), g.Sound →
      (∀ call ∈ calls, call.selection.Sound) → Run g calls s → calls ≠ [] →
      ∃ t₀ ts x, calls.map (·.action) = .initial t₀ :: ts.map .substitute ∧ s.tree = some x ∧
        (∃ ws parts, x.words = .ok ws ∧ (t₀ :: ts).mapM Tree.words = .ok parts ∧
          ws ~ parts.flatten ∧ ∀ part ∈ parts, part.Sublist ws) ∧
        ∃ k counts, x.ruleCount = .ok k ∧ (t₀ :: ts).mapM Tree.ruleCount = .ok counts ∧
          k + ts.length = counts.sum ∧ (s.phase = .ok .terminal ↔ counts.sum = ts.length)) := by
  refine ⟨fun d c xs x hd hc hxs hx => hd.joins hc hxs hx, ?_⟩
  intro g calls s hg hcalls hrun hne
  rcases hrun.madeOf hg hcalls with ⟨hempty, _⟩ | ⟨t₀, ts, x, hactions, hx, hwords, hrules⟩
  · exact absurd hempty hne
  · obtain ⟨k, counts, hk, hcounts, hsum⟩ := hrules
    rw [List.length_cons] at hsum
    refine ⟨t₀, ts, x, hactions, hx, hwords, k, counts, hk, hcounts, by omega, ?_⟩
    rw [State.phase_eq_terminal_iff hx ((hrun.sound hg hcalls).tree x hx) hk]
    omega

theorem runs_conserve_objectCalls :
    (Tree.clause.Sound ∧ Tree.noun.Sound ∧
      Tree.clause.attach .noun = .ok [.subjectClause, .objectClause] ∧
      Tree.clause.Joins .noun .objectClause) ∧
    clauseGrammar.Sound ∧ Run clauseGrammar objectCalls ⟨some .objectClause, clauseGrammar⟩ ∧
    ∃ t₀ ts x, objectCalls.map (·.action) = .initial t₀ :: ts.map .substitute ∧
      some Tree.objectClause = some x ∧
      (∃ ws parts, x.words = .ok ws ∧ (t₀ :: ts).mapM Tree.words = .ok parts ∧
        ws ~ parts.flatten ∧ ∀ part ∈ parts, part.Sublist ws) ∧
      ∃ k counts, x.ruleCount = .ok k ∧ (t₀ :: ts).mapM Tree.ruleCount = .ok counts ∧
        k + ts.length = counts.sum ∧
        (State.phase ⟨some .objectClause, clauseGrammar⟩ = .ok .terminal ↔
          counts.sum = ts.length) := by
  have hclause : Tree.clause.Sound := by decide
  have hnoun : Tree.noun.Sound := by decide
  have hattach : Tree.clause.attach .noun = .ok [.subjectClause, .objectClause] := by
    decide +kernel
  have hjoins := runs_conserve.1 _ _ _ .objectClause hclause hnoun hattach
    (List.mem_cons_of_mem _ (List.mem_singleton_self _))
  exact ⟨⟨hclause, hnoun, hattach, hjoins⟩, sound_clauseGrammar, run_objectCalls,
    runs_conserve.2 _ _ _ sound_clauseGrammar sound_objectCalls run_objectCalls
      (List.cons_ne_nil _ _)⟩

end SpineGrammar
