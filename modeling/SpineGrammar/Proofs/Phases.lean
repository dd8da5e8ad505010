import SpineGrammar.Proofs.Loading
import SpineGrammar.Proofs.Successors

/-!
# Phases

What the phase of a state says about its derivation and its actions, which calls a state refuses for
good, and what calls keep. A complete derivation refuses every call, and a stuck one every call by
position and every tree of its grammar. A call that succeeds starts the derivation or inserts into
it, so it never empties the state, and the root keeps the start label with which it came.
-/

namespace SpineGrammar

namespace Tree

variable {d c x : Tree} {label : String} {labels : SortedSet String}

/-- The candidate has no place where its label is not waited for. -/
theorem Sound.attach_eq_nil (hd : d.Sound) (hc : c.Sound) (hlabels : d.openLabels = .ok labels)
    (hlabel : c.label = .ok label) (hnot : label ∉ labels) : d.attach c = .ok [] := by
  obtain ⟨b, hunfold, hb⟩ := hd.exists_denotes
  obtain ⟨g, _, hg⟩ := hc.exists_denotes
  obtain rfl := Except.ok.inj (hlabel.symm.trans hg.label_eq)
  have hturns : b.turns g.data.label = [] := by
    rw [List.eq_nil_iff_forall_not_mem]
    intro turn hturn
    obtain ⟨labels', hlabels', hmem⟩ := exists_mem_openLabels hunfold hturn
    obtain rfl := Except.ok.inj (hlabels.symm.trans hlabels')
    exact hnot hmem
  rw [attach_eq_ok hd.toIsTree hd.slotted hb hc.toIsTree hg, hturns]
  rfl

theorem Sound.exists_ruleCount (hd : d.Sound) : ∃ k, d.ruleCount = .ok k := by
  obtain ⟨b, _, hb⟩ := hd.exists_denotes
  exact ⟨_, hb.ruleCount_eq hd.toIsTree⟩

/-- A tree without rules waits for no label. -/
theorem Sound.openLabels_of_ruleFree (hd : d.Sound) (hk : d.ruleCount = .ok 0) :
    d.openLabels = .ok .empty := by
  obtain ⟨rs, hrs⟩ := hd.exists_applicableRules
  have hcomplete := hd.isComplete_eq hk
  rw [isComplete, hrs, ok_bind, pure_eq_ok, Except.ok.injEq] at hcomplete
  have hempty : rs = [] := by simpa using hcomplete
  rw [openLabels, hrs, hempty]
  rfl

/-- An insertion leaves the label of the root. -/
theorem label_of_mem_attach {xs : List Tree} (hxs : d.attach c = .ok xs) (hx : x ∈ xs)
    (hlabel : d.label = .ok label) : x.label = .ok label := by
  obtain ⟨⟨owner, r⟩, hattaches⟩ := exists_attaches_of_mem hxs hx
  obtain ⟨target, i, _, _, _, rfl⟩ := hattaches.exists_spliced
  obtain ⟨n, hn, hroot⟩ := bind_eq_ok_iff.1 hlabel
  rw [Tree.label, rootNode, root_spliced, node_spliced_of_lt hn, ok_bind]
  exact hroot

end Tree

namespace State

variable {s s' : State} {d t : Tree} {as : List Action} {sel : Selection} {label : String}
  {labels : SortedSet String} {i j k : Nat}

/-! ## What the phase says -/

theorem phase_of_eq_none (hs : s.tree = none) : s.phase = .ok .empty := by
  simp only [phase, hs]
  rfl

theorem phase_ne_empty (hs : s.tree = some d) : s.phase ≠ .ok .empty := by
  intro h
  simp only [phase, hs] at h
  obtain ⟨complete, _, h⟩ := bind_eq_ok_iff.1 h
  split at h
  · cases h
  · obtain ⟨stalled, _, h⟩ := bind_eq_ok_iff.1 h
    split at h
    · cases h
    · cases h

/-- After the start the actions are insertions of trees that are waited for. -/
theorem mem_actions_iff (hs : s.tree = some d) (hlabels : d.openLabels = .ok labels)
    (has : s.actions = .ok as) {a : Action} :
    a ∈ as ↔ ∃ label ∈ labels, ∃ t ∈ s.grammar.treesFor label, a = .substitute t := by
  simp only [actions, hs, hlabels, ok_bind] at has
  obtain rfl := Except.ok.inj has
  rw [List.mem_map]
  constructor
  · intro ha
    obtain ⟨t, ht, rfl⟩ := ha
    obtain ⟨label, hlabel, ht⟩ := List.mem_flatMap.1 ht
    exact ⟨label, hlabel, t, ht, rfl⟩
  · intro ha
    obtain ⟨label, hlabel, t, ht, rfl⟩ := ha
    exact ⟨t, List.mem_flatMap.2 ⟨label, hlabel, ht⟩, rfl⟩

/-- The grammar has no tree for any label that is waited for just if there is no action. -/
theorem isStalled_eq (hs : s.tree = some d) (hlabels : d.openLabels = .ok labels)
    (has : s.actions = .ok as) : s.isStalled d = .ok (decide (as = [])) := by
  rw [isStalled, hlabels, ok_bind, pure_eq_ok, Except.ok.injEq, Bool.eq_iff_iff, List.all_eq_true,
    decide_eq_true_iff, List.eq_nil_iff_forall_not_mem]
  constructor
  · intro hstalled a ha
    obtain ⟨label, hlabel, t, ht, _⟩ := (mem_actions_iff hs hlabels has).1 ha
    rw [List.isEmpty_iff.1 (hstalled label hlabel)] at ht
    cases ht
  · intro hempty label hlabel
    rw [List.isEmpty_iff, List.eq_nil_iff_forall_not_mem]
    intro t ht
    exact hempty _ ((mem_actions_iff hs hlabels has).2 ⟨label, hlabel, t, ht, rfl⟩)

/-- The phase after the start, by the number of rules and the actions. -/
theorem phase_eq (hs : s.tree = some d) (hd : d.Sound) (hk : d.ruleCount = .ok k)
    (has : s.actions = .ok as) :
    s.phase = .ok (if k = 0 then .terminal else if as = [] then .deadEnd else .inProgress) := by
  obtain ⟨labels, hlabels⟩ := hd.exists_openLabels
  simp only [phase, hs, hd.isComplete_eq hk, isStalled_eq hs hlabels has, ok_bind,
    decide_eq_true_eq]
  by_cases hzero : k = 0
  · simp [hzero]
  · by_cases hempty : as = []
    · simp [hzero, hempty]
    · simp [hzero, hempty]

theorem actions_eq_nil_of_ruleFree (hs : s.tree = some d) (hd : d.Sound)
    (hk : d.ruleCount = .ok 0) (has : s.actions = .ok as) : as = [] := by
  rw [List.eq_nil_iff_forall_not_mem]
  intro a ha
  obtain ⟨label, hlabel, _⟩ := (mem_actions_iff hs (hd.openLabels_of_ruleFree hk) has).1 ha
  cases hlabel

/-! ## Calls that are refused for good -/

theorem execute_index_of_nil (has : s.actions = .ok []) (i j : Nat) :
    s.execute (.index i) j = Attempt.refuse (.actionOutOfRange i 0) := by
  have hoffers : s.Offers [] [] := ⟨has, .nil⟩
  exact hoffers.execute_index_of_le (Nat.zero_le i)

theorem execute_substitute_of_nil (hs : s.tree = some d) (ht : d.attach t = .ok []) (j : Nat) :
    s.execute (.action (.substitute t)) j = Attempt.refuse (.outcomeOutOfRange j 0) := by
  have hselect : s.select (.action (.substitute t)) = .ok (.substitute t) := by
    obtain ⟨tree, grammar⟩ := s
    obtain rfl : tree = some d := hs
    rfl
  rw [execute, hselect, ok_bind, outcomes_of_eq_some hs, ht]
  rfl

theorem exists_execute_initial (hs : s.tree = some d) (ht : t.Sound) (j : Nat) :
    ∃ text, s.execute (.action (.initial t)) j = Attempt.refuse (.alreadyStarted text) := by
  obtain ⟨text, htext⟩ := ht.exists_text
  obtain ⟨tree, grammar⟩ := s
  obtain rfl : tree = some d := hs
  have haction : Action.text (.initial t) = .ok ("initial " ++ text) := by
    rw [Action.text, Action.tree, htext]
    rfl
  refine ⟨"initial " ++ text, ?_⟩
  simp only [execute, select, checkLegal, haction, ofChecked_ok, ok_bind]
  rfl

/-- A complete derivation refuses every call. -/
theorem exists_refusal_of_ruleFree (hs : s.tree = some d) (hd : d.Sound) (hk : d.ruleCount = .ok 0)
    (has : s.actions = .ok as) (hsel : sel.Sound) (j : Nat) :
    ∃ reason, s.execute sel j = Attempt.refuse reason := by
  obtain rfl := actions_eq_nil_of_ruleFree hs hd hk has
  cases sel with
  | index i => exact ⟨_, execute_index_of_nil has i j⟩
  | action a =>
    cases a with
    | initial t =>
      obtain ⟨text, h⟩ := exists_execute_initial hs hsel j
      exact ⟨_, h⟩
    | substitute t =>
      have ht : t.Sound := hsel
      obtain ⟨label, hlabel⟩ := ht.exists_label
      have hnone : d.attach t = .ok [] :=
        hd.attach_eq_nil ht (hd.openLabels_of_ruleFree hk) hlabel List.not_mem_nil
      exact ⟨_, execute_substitute_of_nil hs hnone j⟩

/-- A derivation without actions has no place for the trees of its grammar. -/
theorem exists_refusal_of_mem_trees (hs : s.tree = some d) (hd : d.Sound)
    (has : s.actions = .ok []) (hlabels : ∀ e ∈ s.grammar.entries, e.2.label = .ok e.1)
    (ht : t ∈ s.grammar.trees) (hsound : t.Sound) (j : Nat) :
    ∃ reason, s.execute (.action (.substitute t)) j = Attempt.refuse reason := by
  obtain ⟨labels, hopen⟩ := hd.exists_openLabels
  obtain ⟨e, he, rfl⟩ := List.mem_map.1 ht
  have hnot : e.1 ∉ labels := by
    intro hlabel
    have htree : e.2 ∈ s.grammar.treesFor e.1 :=
      List.mem_map.2 ⟨e, List.mem_filter.2 ⟨he, decide_eq_true rfl⟩, rfl⟩
    have hmem := (mem_actions_iff hs hopen has).2 ⟨e.1, hlabel, e.2, htree, rfl⟩
    cases hmem
  exact ⟨_, execute_substitute_of_nil hs (hd.attach_eq_nil hsound hopen (hlabels e he) hnot) j⟩

end State

/-! ## Starting -/

/-- `g.Starts sel t`: before the start, the selection picks the start from `t`. -/
def Grammar.Starts (g : Grammar) (sel : Selection) (t : Tree) : Prop :=
  match sel with
  | .index i => g.startTrees[i]? = some t
  | .action a => a = .initial t ∧ t.label = .ok g.startLabel

instance (g : Grammar) (sel : Selection) (t : Tree) : Decidable (g.Starts sel t) :=
  match sel with
  | .index i => inferInstanceAs (Decidable (g.startTrees[i]? = some t))
  | .action a => inferInstanceAs (Decidable (a = .initial t ∧ t.label = .ok g.startLabel))

theorem Grammar.startLabel_of_ofTrees {trees : List Tree} {startLabel : String} {g : Grammar}
    (h : Grammar.ofTrees trees startLabel = .ok g) : g.startLabel = startLabel := by
  obtain ⟨entries, _, hg⟩ := bind_eq_ok_iff.1 h
  rw [← Except.ok.inj hg]

/-- Where a grammar files trees under their labels, a derivation starts from the start label. -/
theorem Grammar.Starts.label_eq {g : Grammar} {sel : Selection} {t : Tree} (h : g.Starts sel t)
    (hlabels : ∀ e ∈ g.entries, e.2.label = .ok e.1) : t.label = .ok g.startLabel := by
  cases sel with
  | action a => exact h.2
  | index i =>
    obtain ⟨e, he, rfl⟩ := List.mem_map.1 (List.mem_of_getElem? h)
    obtain ⟨he, hstart⟩ := List.mem_filter.1 he
    rw [hlabels e he, of_decide_eq_true hstart]

namespace State

variable {s s' : State} {d t : Tree} {a : Action} {sel : Selection} {i j : Nat}

theorem select_eq_ok_iff_of_eq_none (hs : s.tree = none) :
    s.select sel = .ok a ↔ ∃ t, s.grammar.Starts sel t ∧ a = .initial t := by
  obtain ⟨tree, g⟩ := s
  obtain rfl : tree = none := hs
  cases sel with
  | index i =>
    have hactions : State.actions ⟨none, g⟩ = .ok (g.startTrees.map .initial) := rfl
    simp only [select, hactions, ofChecked_ok, ok_bind, List.getElem?_map, Grammar.Starts]
    cases hi : g.startTrees[i]? with
    | none => simp [Attempt.refuse]
    | some t => simp [eq_comm]
  | action b =>
    cases b with
    | substitute t =>
      have hrefused : select ⟨none, g⟩ (.action (.substitute t)) = Attempt.refuse .notStarted := rfl
      rw [hrefused]
      simp [Attempt.refuse, Grammar.Starts]
    | initial t =>
      have hselect : select ⟨none, g⟩ (.action (.initial t)) = .ok a ↔
          checkLegal ⟨none, g⟩ (.initial t) = .ok () ∧ a = .initial t := by
        rw [select, bind_eq_ok_iff]
        constructor
        · intro h
          obtain ⟨_, hlegal, ha⟩ := h
          exact ⟨hlegal, (Except.ok.inj ha).symm⟩
        · intro h
          exact ⟨(), h.1, congrArg Except.ok h.2.symm⟩
      have hlegal : checkLegal ⟨none, g⟩ (.initial t) = .ok () ↔ t.label = .ok g.startLabel := by
        simp only [checkLegal]
        rw [bind_eq_ok_iff]
        constructor
        · intro hlegal
          obtain ⟨label, hlabel, hlegal⟩ := hlegal
          rw [ofChecked_eq_ok_iff] at hlabel
          split at hlegal
          · next hstart => rw [hlabel, hstart]
          · obtain ⟨_, _, hrefused⟩ := bind_eq_ok_iff.1 hlegal
            cases hrefused
        · intro hlabel
          exact ⟨g.startLabel, ofChecked_eq_ok_iff.2 hlabel, if_pos rfl⟩
      rw [hselect, hlegal]
      constructor
      · intro h
        exact ⟨t, ⟨rfl, h.1⟩, h.2⟩
      · intro h
        obtain ⟨t', ⟨ht, hlabel⟩, rfl⟩ := h
        obtain rfl := Action.initial.inj ht
        exact ⟨hlabel, rfl⟩

/-- Before the start a call succeeds just if it picks a start and keeps its only outcome, which is
    the tree itself. -/
theorem execute_eq_ok_iff_of_eq_none (hs : s.tree = none) :
    s.execute sel j = .ok s' ↔
      j = 0 ∧ ∃ t, s.grammar.Starts sel t ∧ s' = { s with tree := some t } := by
  have houtcomes : ∀ t, s.outcomes (.initial t) = .ok [t] := fun _ => rfl
  rw [execute, bind_eq_ok_iff]
  constructor
  · intro h
    obtain ⟨a, ha, hexecute⟩ := h
    obtain ⟨t, hstarts, rfl⟩ := (select_eq_ok_iff_of_eq_none hs).1 ha
    rw [houtcomes, ok_bind] at hexecute
    cases j with
    | zero => exact ⟨rfl, t, hstarts, (Except.ok.inj hexecute).symm⟩
    | succ j => cases hexecute
  · intro h
    obtain ⟨rfl, t, hstarts, rfl⟩ := h
    refine ⟨.initial t, (select_eq_ok_iff_of_eq_none hs).2 ⟨t, hstarts, rfl⟩, ?_⟩
    rw [houtcomes]
    rfl

/-! ## Calls one after another -/

/-- The state after calls, of which those that do not succeed change nothing. -/
def after (s : State) (calls : List (Selection × Nat)) : State :=
  calls.foldl (fun s call => ((perform call.1 call.2).run.run s).2) s

/-- A call that succeeds is a step. -/
theorem exists_step (h : s.execute sel j = .ok s') : ∃ a, s.Step ⟨sel, a⟩ s' := by
  obtain ⟨a, ha, _⟩ := bind_eq_ok_iff.1 h
  exact ⟨a, ha, j, h⟩

/-- A call that succeeds leads to a derivation. -/
theorem exists_tree_of_execute (h : s.execute sel j = .ok s') : ∃ t, s'.tree = some t := by
  obtain ⟨a, hstep⟩ := exists_step h
  rcases hstep.cases with ⟨t, _, _, rfl⟩ | ⟨d, t, xs, x, _, _, _, _, rfl⟩
  · exact ⟨t, rfl⟩
  · exact ⟨x, rfl⟩

/-- One call leaves the state or takes it to where the call leads. -/
theorem perform_cases (s : State) (sel : Selection) (j : Nat) :
    ((perform sel j).run.run s).2 = s ∨ s.execute sel j = .ok ((perform sel j).run.run s).2 := by
  rw [perform_run]
  cases s.execute sel j with
  | ok s' => exact .inr rfl
  | error e => exact .inl rfl

/-- A grammar that files trees under their labels, with no derivation or one whose root has the
    start label. -/
structure Rooted (s : State) : Prop where
  filed : ∀ e ∈ s.grammar.entries, e.2.label = .ok e.1
  root : ∀ t, s.tree = some t → t.label = .ok s.grammar.startLabel

/-- The step: a call keeps the label of the root. -/
theorem Rooted.execute (h : s.Rooted) (hs' : s.execute sel j = .ok s') : s'.Rooted := by
  obtain ⟨a, hstep⟩ := exists_step hs'
  rcases hstep.cases with ⟨t, hnone, _, rfl⟩ | ⟨d, t, xs, x, hd, _, hxs, hx, rfl⟩
  · obtain ⟨_, t', hstarts, heq⟩ := (execute_eq_ok_iff_of_eq_none hnone).1 hs'
    obtain rfl : t = t' := Option.some.inj (State.mk.inj heq).1
    refine ⟨h.filed, ?_⟩
    intro x hx
    obtain rfl := Option.some.inj hx
    exact hstarts.label_eq h.filed
  · refine ⟨h.filed, ?_⟩
    intro y hy
    obtain rfl := Option.some.inj hy
    exact Tree.label_of_mem_attach hxs hx (h.root d hd)

/-- The run: so do any number of calls, whether they succeed or not. -/
theorem Rooted.after (h : s.Rooted) (calls : List (Selection × Nat)) : (s.after calls).Rooted := by
  induction calls generalizing s with
  | nil => exact h
  | cons call calls ih =>
    refine ih ?_
    show ((perform call.1 call.2).run.run s).2.Rooted
    rcases s.perform_cases call.1 call.2 with hsame | hexecute
    · rw [hsame]
      exact h
    · exact h.execute hexecute

theorem grammar_after (s : State) (calls : List (Selection × Nat)) :
    (s.after calls).grammar = s.grammar := by
  induction calls generalizing s with
  | nil => rfl
  | cons call calls ih =>
    refine (ih _).trans ?_
    show ((perform call.1 call.2).run.run s).2.grammar = s.grammar
    rcases s.perform_cases call.1 call.2 with hsame | hexecute
    · rw [hsame]
    · obtain ⟨a, hstep⟩ := exists_step hexecute
      exact hstep.grammar_eq

end State

/-- **Phases**: sound trees make a grammar. Of a state over it that has no derivation or a sound
    one, the phase says whether it has started, whether rules are open, and whether there are
    actions. A complete derivation refuses every call that brings a sound tree; a stuck one every
    call by position and every tree of the grammar. No call that succeeds leads back before the
    start, and there it takes a start as it is. After any calls, successful or not, the root of the
    derivation has the start label. -/
theorem phase_machine {trees : List Tree} (htrees : ∀ t ∈ trees, t.Sound) (startLabel : String) :
    ∃ g, Grammar.ofTrees trees startLabel = .ok g ∧
      (∀ s : State, s.grammar = g → (∀ t, s.tree = some t → t.Sound) →
        ∃ phase as, s.phase = .ok phase ∧ s.actions = .ok as ∧
          (phase = .empty ↔ s.tree = none) ∧
          (phase = .terminal ↔ ∃ t, s.tree = some t ∧ t.ruleCount = .ok 0) ∧
          (phase = .deadEnd ↔
            ∃ t k, s.tree = some t ∧ t.ruleCount = .ok k ∧ 0 < k ∧ as = []) ∧
          (phase = .inProgress ↔ ∃ t, s.tree = some t ∧ as ≠ []) ∧
          (phase = .terminal → ∀ sel outcome, sel.Sound →
            ∃ reason, s.execute sel outcome = Attempt.refuse reason) ∧
          (phase = .deadEnd → ∀ outcome,
            (∀ i, ∃ reason, s.execute (.index i) outcome = Attempt.refuse reason) ∧
            ∀ t ∈ trees,
              ∃ reason, s.execute (.action (.substitute t)) outcome = Attempt.refuse reason) ∧
          (∀ sel outcome s', s.execute sel outcome = .ok s' →
            (∃ t, s'.tree = some t) ∧ s'.phase ≠ .ok .empty) ∧
          (phase = .empty → ∀ sel outcome s', s.execute sel outcome = .ok s' ↔
            outcome = 0 ∧ ∃ t, g.Starts sel t ∧ s' = ⟨some t, g⟩)) ∧
      ∀ calls t, ((State.start g).after calls).tree = some t → t.label = .ok startLabel := by
  obtain ⟨g, hg⟩ := Grammar.exists_ofTrees htrees startLabel
  have hfiled : ∀ e ∈ g.entries, e.2.label = .ok e.1 := fun e he => (Grammar.of_mem_ofTrees hg he).2
  have hstart : g.startLabel = startLabel := Grammar.startLabel_of_ofTrees hg
  refine ⟨g, hg, ?_, ?_⟩
  · intro s hgrammar htree
    subst hgrammar
    have hsound : s.Sound := ⟨Grammar.sound_of_ofTrees htrees hg, htree⟩
    obtain ⟨as, has, _⟩ := hsound.exists_actions
    have hkept : ∀ sel outcome s', s.execute sel outcome = .ok s' →
        (∃ t, s'.tree = some t) ∧ s'.phase ≠ .ok .empty := by
      intro sel outcome s' hs'
      obtain ⟨t, ht⟩ := State.exists_tree_of_execute hs'
      exact ⟨⟨t, ht⟩, State.phase_ne_empty ht⟩
    cases hs : s.tree with
    | none =>
      refine ⟨.empty, as, State.phase_of_eq_none hs, has, by simp, by simp, by simp, by simp,
        by simp, by simp, hkept, ?_⟩
      intro _ sel outcome s'
      exact State.execute_eq_ok_iff_of_eq_none hs
    | some d =>
      have hd : d.Sound := htree d hs
      obtain ⟨k, hk⟩ := hd.exists_ruleCount
      have hphase := State.phase_eq hs hd hk has
      by_cases hzero : k = 0
      · subst hzero
        obtain rfl := State.actions_eq_nil_of_ruleFree hs hd hk has
        refine ⟨.terminal, [], hphase, has, by simp, by simp [hk], by simp [hk], by simp, ?_,
          by simp, hkept, by simp⟩
        intro _ sel outcome hsel
        exact State.exists_refusal_of_ruleFree hs hd hk has hsel outcome
      · by_cases hempty : as = []
        · subst hempty
          rw [if_neg hzero, if_pos rfl] at hphase
          refine ⟨.deadEnd, [], hphase, has, by simp, by simp [hk, hzero], ?_, by simp, by simp, ?_,
            hkept, by simp⟩
          · simp [hk, Nat.pos_of_ne_zero hzero]
          · intro _ outcome
            refine ⟨fun i => ⟨_, State.execute_index_of_nil has i outcome⟩, ?_⟩
            intro t ht
            exact State.exists_refusal_of_mem_trees hs hd has hfiled
              (Grammar.trees_of_ofTrees hg ▸ ht) (htrees t ht) outcome
        · rw [if_neg hzero, if_neg hempty] at hphase
          exact ⟨.inProgress, as, hphase, has, by simp, by simp [hk, hzero], by simp [hempty],
            by simp [hempty], by simp, by simp, hkept, by simp⟩
  · intro calls t ht
    have hempty : (State.start g).Rooted := ⟨hfiled, fun t ht => nomatch ht⟩
    have hrooted : ((State.start g).after calls).Rooted := hempty.after calls
    rw [hrooted.root t ht, State.grammar_after, State.start, hstart]

/-- A clause that waits for an adverb. -/
def Tree.adverbClause : Tree :=
  ⟨#[.plain "S" [{ nounRule [] .right with pos := "ADVP" }] [.leaf "sleep"]], 0⟩

/-- The clause with both its noun phrases is complete, and a call in between that fails does not
    matter. A clause that waits for an adverb is stuck, for there is none. -/
theorem phase_machine_clause :
    (∀ t ∈ [Tree.clause, Tree.noun], t.Sound) ∧
    Grammar.ofTrees [.clause, .noun] "S" = .ok clauseGrammar ∧
    ∃ s t, (State.start clauseGrammar).after
        [(.index 0, 0), (.index 5, 0), (.index 0, 1), (.index 0, 0)] = s ∧
      s.tree = some t ∧ t.label = .ok "S" ∧ s.phase = .ok .terminal ∧
      (∃ reason, s.execute (.action (.substitute .noun)) 0 = Attempt.refuse reason) ∧
      State.phase ⟨some .adverbClause, clauseGrammar⟩ = .ok .deadEnd ∧
      (∃ reason, State.execute ⟨some .adverbClause, clauseGrammar⟩ (.action (.substitute .noun)) 0 =
        Attempt.refuse reason) ∧
      ¬ clauseGrammar.Starts (.index 1) .noun ∧
      State.execute (.start clauseGrammar) (.index 0) 0 = .ok ⟨some .clause, clauseGrammar⟩ := by
  have hclause : Tree.clause.Sound := by decide
  have hnoun : Tree.noun.Sound := by decide
  have htrees : ∀ t ∈ [Tree.clause, Tree.noun], t.Sound := by
    intro t ht
    rcases List.mem_cons.1 ht with rfl | ht
    · exact hclause
    · rw [List.mem_singleton.1 ht]
      exact hnoun
  have hgrammar : Grammar.ofTrees [.clause, .noun] "S" = .ok clauseGrammar := by decide +kernel
  obtain ⟨g, hg, hstates, hroot⟩ := phase_machine htrees "S"
  obtain rfl := Except.ok.inj (hgrammar.symm.trans hg)
  have hcalls : ∃ t, (State.start clauseGrammar).after
      [(.index 0, 0), (.index 5, 0), (.index 0, 1), (.index 0, 0)] = ⟨some t, clauseGrammar⟩ ∧
      t.Sound ∧ State.phase ⟨some t, clauseGrammar⟩ = .ok .terminal := by
    refine ⟨Tree.objectClause.spliced .noun (nounRule [] .left) 0 0 0, ?_, ?_, ?_⟩
    · decide +kernel
    · decide +kernel
    · decide +kernel
  obtain ⟨t, hcalls, ht, hterminal⟩ := hcalls
  refine ⟨htrees, hgrammar, ⟨some t, clauseGrammar⟩, t, hcalls, rfl, ?_, hterminal, ?_, ?_⟩
  · exact hroot _ t (by rw [hcalls])
  · obtain ⟨phase, as, hphase, _, _, _, _, _, hrefused, _⟩ :=
      hstates ⟨some t, clauseGrammar⟩ rfl fun t' ht' => Option.some.inj ht' ▸ ht
    have hcomplete := Except.ok.inj (hphase.symm.trans hterminal)
    exact hrefused hcomplete (.action (.substitute .noun)) 0 hnoun
  · have hadverb : Tree.adverbClause.Sound := by decide
    have hstuck : State.phase ⟨some .adverbClause, clauseGrammar⟩ = .ok .deadEnd := by
      decide +kernel
    obtain ⟨phase, as, hphase, _, _, _, _, _, _, hrefused, _⟩ :=
      hstates ⟨some .adverbClause, clauseGrammar⟩ rfl fun t' ht' => Option.some.inj ht' ▸ hadverb
    obtain ⟨phase', as', hphase', _, _, _, _, _, _, _, _, hstarts⟩ :=
      hstates (.start clauseGrammar) rfl fun t' ht' => nomatch ht'
    refine ⟨hstuck, ?_, by decide, ?_⟩
    · exact (hrefused (Except.ok.inj (hphase.symm.trans hstuck)) 0).2 .noun (by simp)
    · have hempty : phase' = .empty := Except.ok.inj (hphase'.symm.trans rfl)
      exact (hstarts hempty (.index 0) 0 _).2 ⟨rfl, .clause, by decide, rfl⟩

end SpineGrammar
