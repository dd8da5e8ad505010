import SpineGrammar.Derivation.Run
import SpineGrammar.Proofs.RecordTrees
import SpineGrammar.Proofs.Turns

/-!
# Soundness of derivations

Inserting a sound tree into a sound tree gives sound trees and never faults. So every run over sound
trees goes from sound derivation to sound derivation, and no call in it faults.
-/

namespace SpineGrammar

/-! ## Insertions -/

namespace Tree

variable {d c t : Tree} {b g s m : Branch} {a : Address} {r : Rule} {owner target i : Nat}

theorem slotted_spliced (hd : d.Slotted) (hc : c.Slotted) :
    (d.spliced c r owner target i).Slotted :=
  forall_mem_spliced hd hc (fun _ _ _ => ⟨r.slot, rfl⟩) (fun _ hn => hn) (fun _ hn => hn)

theorem rules_nodup_spliced (hd : ∀ n ∈ d.nodes, n.rules.Nodup)
    (hc : ∀ n ∈ c.nodes, n.rules.Nodup) :
    ∀ n ∈ (d.spliced c r owner target i).nodes, n.rules.Nodup :=
  forall_mem_spliced hd hc (fun _ hn => hn) (fun _ hn => hn) (fun _ hn => hn.filter _)

/-- The step: a rule that is served leads to a sound tree. -/
theorem Sound.spliced (hd : d.Sound) (hc : c.Sound) (hb : d.Denotes b) (hg : c.Denotes g)
    (h : b.Serves a r s m i) : (d.spliced c r s.id m.id i).Sound where
  toIsTree := isTree_spliced hd.toIsTree hc.toIsTree hb hg h
  slotted := slotted_spliced hd.slotted hc.slotted
  rules_nodup := rules_nodup_spliced hd.rules_nodup hc.rules_nodup

/-- Inserting a sound tree into a sound tree does not fault, and its results are sound. -/
theorem Sound.exists_attach (hd : d.Sound) (hc : c.Sound) :
    ∃ xs, d.attach c = .ok xs ∧ ∀ x ∈ xs, x.Sound := by
  obtain ⟨b, _, hb⟩ := hd.exists_denotes
  obtain ⟨g, _, hg⟩ := hc.exists_denotes
  have hattach := attach_eq_ok hd.toIsTree hd.slotted hb hc.toIsTree hg
  refine ⟨_, hattach, ?_⟩
  intro x hx
  obtain ⟨a, r, s, m, i, hserves, _, rfl⟩ :=
    exists_serves_of_mem_attach hd.toIsTree hd.slotted hb hc.toIsTree hg hattach hx
  exact hd.spliced hc hb hg hserves

theorem Sound.exists_text (h : t.Sound) : ∃ text, t.text = .ok text := by
  obtain ⟨b, hb, _⟩ := h.exists_denotes
  exact ⟨b.text, by rw [text, hb]; rfl⟩

theorem Sound.exists_label (h : t.Sound) : ∃ label, t.label = .ok label := by
  obtain ⟨b, _, hb⟩ := h.exists_denotes
  exact ⟨_, hb.label_eq⟩

theorem Sound.exists_openLabels (h : t.Sound) : ∃ labels, t.openLabels = .ok labels := by
  obtain ⟨b, hb, _⟩ := h.exists_denotes
  exact ⟨_, by rw [openLabels, applicableRules, depthFirst_eq_ok hb]; rfl⟩

end Tree

/-! ## Runs -/

namespace State

/-- A state whose grammar and whose derivation, if there is one, are sound. -/
structure Sound (s : State) : Prop where
  grammar : s.grammar.Sound
  tree : ∀ t, s.tree = some t → t.Sound

variable {s s' : State} {sel : Selection} {a : Action}

theorem Sound.faultless_checkLegal (h : s.Sound) (ha : a.tree.Sound) :
    Faultless (s.checkLegal a) := by
  obtain ⟨text, htext⟩ : ∃ text, a.text = .ok text := by
    obtain ⟨text, htext⟩ := ha.exists_text
    exact ⟨_, by rw [Action.text, htext]; rfl⟩
  obtain ⟨tree, grammar⟩ := s
  cases a with
  | initial t => cases tree with
    | none =>
      obtain ⟨label, hlabel⟩ := ha.exists_label
      have hlabel' : t.label = .ok label := hlabel
      simp only [checkLegal, hlabel', htext, ofChecked_ok, ok_bind]
      split
      · exact faultless_ok _
      · exact faultless_refuse _
    | some d =>
      simp only [checkLegal, htext, ofChecked_ok, ok_bind]
      exact faultless_refuse _
  | substitute t => cases tree with
    | none => exact faultless_refuse _
    | some d => exact faultless_ok _

/-- What actions there are: starts, before the start, and insertions, after it. -/
theorem mem_actions_cases {as : List Action} (has : s.actions = .ok as) (ha : a ∈ as) :
    (∃ t ∈ s.grammar.startTrees, s.tree = none ∧ a = .initial t) ∨
    ∃ d label, ∃ t ∈ s.grammar.treesFor label, s.tree = some d ∧ a = .substitute t := by
  unfold actions at has
  cases hs : s.tree with
  | none =>
    rw [hs] at has
    obtain rfl := Except.ok.inj has
    obtain ⟨t, ht, rfl⟩ := List.mem_map.1 ha
    exact .inl ⟨t, ht, rfl, rfl⟩
  | some d =>
    simp only [hs] at has
    obtain ⟨labels, _, has⟩ := bind_eq_ok_iff.1 has
    obtain rfl := Except.ok.inj has
    obtain ⟨t, ht, rfl⟩ := List.mem_map.1 ha
    obtain ⟨label, _, ht⟩ := List.mem_flatMap.1 ht
    exact .inr ⟨d, label, t, ht, rfl, rfl⟩

/-- The trees of all actions come from the grammar. -/
theorem tree_mem_of_mem_actions {as : List Action} (has : s.actions = .ok as) (ha : a ∈ as) :
    a.tree ∈ s.grammar.trees := by
  have htrees : ∀ label, ∀ t ∈ s.grammar.treesFor label, t ∈ s.grammar.trees := by
    intro label t ht
    obtain ⟨e, he, rfl⟩ := List.mem_map.1 ht
    exact List.mem_map.2 ⟨e, List.mem_of_mem_filter he, rfl⟩
  rcases mem_actions_cases has ha with ⟨t, ht, _, rfl⟩ | ⟨_, label, t, ht, _, rfl⟩
  · exact htrees _ t ht
  · exact htrees label t ht

theorem Sound.exists_actions (h : s.Sound) :
    ∃ as, s.actions = .ok as ∧ ∀ a ∈ as, a.tree.Sound := by
  obtain ⟨as, has⟩ : ∃ as, s.actions = .ok as := by
    unfold actions
    cases hs : s.tree with
    | none => exact ⟨_, rfl⟩
    | some d =>
      obtain ⟨labels, hlabels⟩ := (h.tree d hs).exists_openLabels
      exact ⟨_, by simp only [hlabels, ok_bind]; rfl⟩
  exact ⟨as, has, fun a ha => h.grammar _ (tree_mem_of_mem_actions has ha)⟩

/-- In a sound state each action has its results. -/
theorem Sound.exists_results (h : s.Sound) {as : List Action} (has : s.actions = .ok as)
    (ha : a ∈ as) : ∃ xs, a.results s.tree = .ok xs := by
  have htree : a.tree.Sound := h.grammar _ (tree_mem_of_mem_actions has ha)
  rcases mem_actions_cases has ha with ⟨t, _, _, rfl⟩ | ⟨d, _, t, _, hd, rfl⟩
  · exact ⟨[t], rfl⟩
  · obtain ⟨xs, hxs, _⟩ := (h.tree d hd).exists_attach htree
    refine ⟨xs, ?_⟩
    rw [hd]
    exact hxs

/-- A selection in a sound state does not fault, and the action that it picks brings a sound
    tree. -/
theorem Sound.select (h : s.Sound) (hsel : sel.Sound) :
    Faultless (s.select sel) ∧ ∀ a, s.select sel = .ok a → a.tree.Sound := by
  cases sel with
  | action a =>
    refine ⟨faultless_bind (h.faultless_checkLegal hsel) fun _ _ => faultless_ok _, ?_⟩
    intro a' ha'
    obtain ⟨_, _, ha'⟩ := bind_eq_ok_iff.1 ha'
    obtain rfl := Except.ok.inj ha'
    exact hsel
  | index i =>
    obtain ⟨as, has, hsound⟩ := h.exists_actions
    simp only [State.select, has, ofChecked_ok, ok_bind]
    split
    · next a ha =>
      refine ⟨faultless_ok _, ?_⟩
      rintro a' ha'
      obtain rfl := Except.ok.inj ha'
      exact hsound a (List.mem_of_getElem? ha)
    · refine ⟨faultless_refuse _, ?_⟩
      intro a ha
      cases ha

theorem outcomes_of_eq_none (h : s.tree = none) (t : Tree) :
    s.outcomes (.substitute t) = Attempt.refuse .notStarted := by
  unfold outcomes
  rw [h]

theorem outcomes_of_eq_some {d : Tree} (h : s.tree = some d) (t : Tree) :
    s.outcomes (.substitute t) = Attempt.ofChecked (d.attach t) := by
  unfold outcomes
  rw [h]
  rfl

/-- An action with a sound tree has outcomes in a sound state, unless it is refused, and they are
    sound. -/
theorem Sound.outcomes (h : s.Sound) (ha : a.tree.Sound) :
    Faultless (s.outcomes a) ∧ ∀ xs, s.outcomes a = .ok xs → ∀ x ∈ xs, x.Sound := by
  cases a with
  | initial t =>
    refine ⟨faultless_ok _, ?_⟩
    intro xs hxs x hx
    obtain rfl := Except.ok.inj hxs
    rw [List.mem_singleton.1 hx]
    exact ha
  | substitute t =>
    cases hs : s.tree with
    | none =>
      rw [outcomes_of_eq_none hs]
      refine ⟨faultless_refuse _, ?_⟩
      intro xs hxs
      cases hxs
    | some d =>
      obtain ⟨xs, hxs, hsound⟩ := (h.tree d hs).exists_attach ha
      have hattach : d.attach t = .ok xs := hxs
      rw [outcomes_of_eq_some hs, hattach, ofChecked_ok]
      refine ⟨faultless_ok _, ?_⟩
      intro xs' hxs'
      obtain rfl := Except.ok.inj hxs'
      exact hsound

/-- The step: a call in a sound state does not fault, and it leads to sound states only. -/
theorem Sound.execute (h : s.Sound) (hsel : sel.Sound) (outcome : Nat) :
    Faultless (s.execute sel outcome) ∧ ∀ s', s.execute sel outcome = .ok s' → s'.Sound := by
  obtain ⟨hselect, haction⟩ := h.select hsel
  constructor
  · refine faultless_bind hselect fun a ha => ?_
    refine faultless_bind (h.outcomes (haction a ha)).1 fun xs _ => ?_
    split
    · exact faultless_ok _
    · exact faultless_refuse _
  · intro s' hs'
    obtain ⟨a, ha, hs'⟩ := bind_eq_ok_iff.1 hs'
    obtain ⟨xs, hxs, hs'⟩ := bind_eq_ok_iff.1 hs'
    split at hs'
    · next t ht =>
      obtain rfl := Except.ok.inj hs'
      refine ⟨h.grammar, ?_⟩
      intro t' ht'
      obtain rfl : t = t' := Option.some.inj ht'
      exact (h.outcomes (haction a ha)).2 xs hxs t (List.mem_of_getElem? ht)
    · cases hs'

end State

/-- The run: every state that is reached over sound trees is sound. -/
theorem Run.sound {g : Grammar} {calls : List Call} {s : State} (h : Run g calls s)
    (hg : g.Sound) (hcalls : ∀ call ∈ calls, call.selection.Sound) : s.Sound := by
  induction h with
  | start => exact ⟨hg, fun t ht => nomatch ht⟩
  | @step calls call s s' _ hstep ih =>
    have hs := ih fun call' hcall' => hcalls call' (List.mem_append_left _ hcall')
    have hsel := hcalls call (List.mem_append_right _ (List.mem_singleton_self call))
    obtain ⟨outcome, hs'⟩ := hstep.execute
    exact (hs.execute hsel outcome).2 s' hs'

/-- **Soundness**: trees of records are sound; inserting a sound tree into a sound tree does not
    fault and gives sound trees; and over a grammar of sound trees, in every run whose calls by
    value bring sound trees, the derivation is sound and no further such call faults. -/
theorem derivations_sound :
    (∀ (r : TreeRecord) (index : Nat) (ts : List Tree), r.trees index = .ok ts →
      ∀ t ∈ ts, t.Sound) ∧
    (∀ d c : Tree, d.Sound → c.Sound →
      ∃ xs, d.attach c = .ok xs ∧ ∀ x ∈ xs, x.Sound) ∧
    (∀ (g : Grammar) (calls : List Call) (s : State), g.Sound →
      (∀ call ∈ calls, call.selection.Sound) → Run g calls s →
      (∀ t, s.tree = some t → t.Sound) ∧
      ∀ (selection : Selection) (outcome : Nat), selection.Sound →
        ∀ f, s.execute selection outcome ≠ .error (.fault f)) := by
  refine ⟨?_, ?_, ?_⟩
  · intro r index ts h t ht
    exact (TreeRecord.linear_trees h t ht).sound
  · intro d c hd hc
    exact hd.exists_attach hc
  · intro g calls s hg hcalls hrun
    have hs := hrun.sound hg hcalls
    exact ⟨hs.tree, fun selection outcome hsel => (hs.execute hsel outcome).1⟩

/-- The record of a noun phrase. -/
def nounRecord : TreeRecord where
  spine := "(NP)"
  word := some "cats"
  lexicon := none
  treeType := none
  predicate := none
  rolesetId := none
  argCount := none
  treeId := none
  rules := []

/-- A grammar of a clause and a noun phrase. -/
def clauseGrammar : Grammar := ⟨[("S", .clause), ("NP", .noun)], "S"⟩

theorem sound_clauseGrammar : clauseGrammar.Sound := by
  intro t ht
  rcases List.mem_cons.1 ht with rfl | ht
  · decide
  · rw [List.mem_singleton.1 ht]
    decide

/-- Calls that start with the clause, by index, and give it an object, by value. -/
def objectCalls : List Call :=
  [⟨.index 0, .initial .clause⟩, ⟨.action (.substitute .noun), .substitute .noun⟩]

theorem sound_objectCalls : ∀ call ∈ objectCalls, call.selection.Sound := by
  intro call hcall
  rcases List.mem_cons.1 hcall with rfl | hcall
  · exact trivial
  · rw [List.mem_singleton.1 hcall]
    show Tree.noun.Sound
    decide

theorem run_objectCalls : Run clauseGrammar objectCalls ⟨some .objectClause, clauseGrammar⟩ := by
  have hstart : Run clauseGrammar [⟨.index 0, .initial .clause⟩] ⟨some .clause, clauseGrammar⟩ :=
    .step .start ⟨by decide +kernel, 0, by decide +kernel⟩
  exact .step hstart ⟨by decide +kernel, 1, by decide +kernel⟩

theorem derivations_sound_clause :
    (nounRecord.trees 0 = .ok [.noun] ∧ Tree.noun.Sound) ∧
    (Tree.clause.Sound ∧ Tree.noun.Sound ∧
      ∃ xs, Tree.clause.attach .noun = .ok xs ∧ ∀ x ∈ xs, x.Sound) ∧
    (clauseGrammar.Sound ∧ Run clauseGrammar objectCalls ⟨some .objectClause, clauseGrammar⟩ ∧
      Tree.objectClause.Sound ∧
      ∀ f, State.execute ⟨some .objectClause, clauseGrammar⟩ (.index 0) 0 ≠
        .error (.fault f)) := by
  have hrecord : nounRecord.trees 0 = .ok [.noun] := by decide +kernel
  have hclause : Tree.clause.Sound := by decide
  have hnoun : Tree.noun.Sound :=
    derivations_sound.1 nounRecord 0 _ hrecord _ (List.mem_singleton_self _)
  obtain ⟨hsound, hfault⟩ :=
    derivations_sound.2.2 _ _ _ sound_clauseGrammar sound_objectCalls run_objectCalls
  exact ⟨⟨hrecord, hnoun⟩, ⟨hclause, hnoun, derivations_sound.2.1 _ _ hclause hnoun⟩,
    sound_clauseGrammar, run_objectCalls, hsound _ rfl, hfault (.index 0) 0 trivial⟩

end SpineGrammar
