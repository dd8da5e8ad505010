import SpineGrammar.Proofs.Progress

/-!
# Three ways to move on

A state tells its moves in three ways: it lists all successors, it takes an action by its position
in the list of actions, and it takes an action by value. The three agree. The listed successors are
numbered by the position of the action and the position of its outcome, and these pairs are the ones
with which a call by position succeeds. A listed action is legal, because a grammar files each tree
under the label of its root, so a call by value does what the call by position does. A call that
does not succeed changes nothing.
-/

namespace SpineGrammar

/-! ## Calls that change the state -/

/-- A step that does not touch the state is looked at before what follows it. -/
theorem run_liftM_bind {α β : Type} (x : Attempt Refusal α)
    (f : α → ExceptT (Halt Refusal) (StateM State) β) (s : State) :
    ((liftM x : ExceptT (Halt Refusal) (StateM State) α) >>= f).run.run s =
      match x with
      | .ok a => (f a).run.run s
      | .error e => (.error e, s) := by
  cases x with
  | ok a => rfl
  | error e => rfl

namespace State

/-- A call that succeeds replaces the state, and one that does not leaves it. -/
theorem perform_run (s : State) (selection : Selection) (outcome : Nat) :
    (perform selection outcome).run.run s =
      match s.execute selection outcome with
      | .ok s' => (.ok (), s')
      | .error e => (.error e, s) := by
  show ((liftM (s.select selection) : ExceptT (Halt Refusal) (StateM State) Action)
    >>= _).run.run s = _
  rw [run_liftM_bind]
  unfold execute
  cases s.select selection with
  | error e => rfl
  | ok a =>
    show ((liftM (s.outcomes a) : ExceptT (Halt Refusal) (StateM State) (List Tree))
      >>= _).run.run s = _
    rw [run_liftM_bind, ok_bind]
    cases s.outcomes a with
    | error e => rfl
    | ok results =>
      rw [ok_bind]
      -- Only here, with the outcome in hand, the state is written.
      cases hresult : results[outcome]? with
      | none =>
        simp only [hresult]
        rfl
      | some t =>
        simp only [hresult]
        rfl

/-! ## What a state offers -/

/-- `s.Offers as rs`: the actions of `s` are `as`, and `rs` are the derivations that each of them
    leads to. -/
structure Offers (s : State) (as : List Action) (rs : List (List Tree)) : Prop where
  actions : s.actions = .ok as
  results : List.Forall₂ (fun a xs => a.results s.tree = .ok xs) as rs

variable {s s' : State} {as : List Action} {rs : List (List Tree)} {a : Action} {xs : List Tree}
  {i j : Nat}

theorem Sound.exists_offers (h : s.Sound) : ∃ as rs, s.Offers as rs := by
  obtain ⟨as, has, _⟩ := h.exists_actions
  obtain ⟨rs, hrs⟩ := exists_mapM_eq_ok fun a ha => h.exists_results has (a := a) ha
  exact ⟨as, rs, has, mapM_eq_ok_iff.1 hrs⟩

namespace Offers

/-- Each action has its results. -/
theorem exists_results (h : s.Offers as rs) (ha : as[i]? = some a) :
    ∃ xs, rs[i]? = some xs ∧ a.results s.tree = .ok xs := by
  obtain ⟨hi, rfl⟩ := List.getElem?_eq_some_iff.1 ha
  have hi' : i < rs.length := by
    rw [← h.results.length_eq]
    exact hi
  exact ⟨rs[i], List.getElem?_eq_getElem hi', h.results.get hi hi'⟩

/-- Listed actions are not refused. -/
theorem outcomes_eq (h : s.Offers as rs) (ha : a ∈ as) (hxs : a.results s.tree = .ok xs) :
    s.outcomes a = .ok xs := by
  have hchecked : s.outcomes a = Attempt.ofChecked (a.results s.tree) := by
    rcases mem_actions_cases h.actions ha with ⟨t, _, _, rfl⟩ | ⟨d, _, t, _, hd, rfl⟩
    · rfl
    · rw [outcomes_of_eq_some hd, hd]
      rfl
  rw [hchecked, hxs]
  rfl

theorem select_index (h : s.Offers as rs) (ha : as[i]? = some a) :
    s.select (.index i) = .ok a := by
  unfold select
  simp only [h.actions, ofChecked_ok, ok_bind, ha]
  rfl

/-- A call by position takes the action there and one of its results. -/
theorem execute_index (h : s.Offers as rs) (ha : as[i]? = some a) (hxs : rs[i]? = some xs) :
    s.execute (.index i) j =
      match xs[j]? with
      | some t => .ok { s with tree := some t }
      | none => Attempt.refuse (.outcomeOutOfRange j xs.length) := by
  obtain ⟨xs', hxs', hresults⟩ := h.exists_results ha
  obtain rfl : xs = xs' := Option.some.inj (hxs.symm.trans hxs')
  unfold execute
  rw [h.select_index ha, ok_bind, h.outcomes_eq (List.mem_of_getElem? ha) hresults, ok_bind]
  rfl

theorem execute_index_of_le (h : s.Offers as rs) (hi : as.length ≤ i) :
    s.execute (.index i) j = Attempt.refuse (.actionOutOfRange i as.length) := by
  have hnone : as[i]? = none := List.getElem?_eq_none hi
  unfold execute select
  simp only [h.actions, ofChecked_ok, ok_bind, hnone]
  rfl

/-- A call by position succeeds if the action and its outcome are there. -/
theorem execute_index_eq_ok_iff (h : s.Offers as rs) :
    s.execute (.index i) j = .ok s' ↔
      ∃ xs t, rs[i]? = some xs ∧ xs[j]? = some t ∧ s' = { s with tree := some t } := by
  by_cases hi : as.length ≤ i
  · have hnone : rs[i]? = none := by
      apply List.getElem?_eq_none
      rw [← h.results.length_eq]
      exact hi
    rw [h.execute_index_of_le hi]
    simp [Attempt.refuse, hnone]
  · have ha : as[i]? = some as[i] := List.getElem?_eq_getElem (by omega)
    obtain ⟨xs, hxs, _⟩ := h.exists_results ha
    rw [h.execute_index ha hxs]
    cases ht : xs[j]? with
    | none => simp [Attempt.refuse, hxs, ht]
    | some t => simp [hxs, ht, eq_comm]

/-- Why a call by position fails. -/
theorem refusal_of_execute_index (h : s.Offers as rs) {e : Halt Refusal}
    (he : s.execute (.index i) j = .error e) :
    (as.length ≤ i ∧ e = .refused (.actionOutOfRange i as.length)) ∨
    ∃ a xs, as[i]? = some a ∧ s.outcomes a = .ok xs ∧ xs.length ≤ j ∧
      e = .refused (.outcomeOutOfRange j xs.length) := by
  by_cases hi : as.length ≤ i
  · rw [h.execute_index_of_le hi] at he
    exact .inl ⟨hi, (Except.error.inj he).symm⟩
  · have ha : as[i]? = some as[i] := List.getElem?_eq_getElem (by omega)
    obtain ⟨xs, hxs, hresults⟩ := h.exists_results ha
    rw [h.execute_index ha hxs] at he
    right
    refine ⟨as[i], xs, ha, h.outcomes_eq (List.getElem_mem _) hresults, ?_⟩
    cases ht : xs[j]? with
    | none =>
      rw [ht] at he
      exact ⟨List.getElem?_eq_none_iff.1 ht, (Except.error.inj he).symm⟩
    | some t =>
      rw [ht] at he
      cases he

/-! ## Calls by value -/

/-- Where the grammar files trees under their labels, listed actions are legal. -/
theorem checkLegal_eq (h : s.Offers as rs) (ha : a ∈ as)
    (hlabels : ∀ e ∈ s.grammar.entries, e.2.label = .ok e.1) : s.checkLegal a = .ok () := by
  obtain ⟨tree, grammar⟩ := s
  rcases mem_actions_cases h.actions ha with ⟨t, ht, hnone, rfl⟩ | ⟨d, _, t, _, hd, rfl⟩
  · obtain rfl : tree = none := hnone
    -- A start tree is filed under the start label, so that is its label.
    have hlabel : t.label = .ok grammar.startLabel := by
      obtain ⟨e, he, rfl⟩ := List.mem_map.1 ht
      obtain ⟨he, hstart⟩ := List.mem_filter.1 he
      rw [hlabels e he, of_decide_eq_true hstart]
    simp only [checkLegal, hlabel, ofChecked_ok, ok_bind, if_pos]
    rfl
  · obtain rfl : tree = some d := hd
    rfl

theorem execute_action (h : s.Offers as rs) (ha : as[i]? = some a)
    (hlabels : ∀ e ∈ s.grammar.entries, e.2.label = .ok e.1) (j : Nat) :
    s.execute (.action a) j = s.execute (.index i) j := by
  have hvalue : s.select (.action a) = .ok a := by
    show (s.checkLegal a >>= fun _ => pure a) = .ok a
    rw [h.checkLegal_eq (List.mem_of_getElem? ha) hlabels, ok_bind]
    rfl
  -- From the selected action on, both calls go the same way.
  unfold execute
  rw [hvalue, h.select_index ha]

end Offers

/-! ## The list of successors -/

/-- The positions of actions and of their results, by action and then by result. -/
def callsOf (rs : List (List Tree)) : List (Nat × Nat) :=
  (rs.mapIdx fun i xs => (List.range xs.length).map (Prod.mk i)).flatten

theorem mem_callsOf : (i, j) ∈ callsOf rs ↔ ∃ xs, rs[i]? = some xs ∧ j < xs.length := by
  unfold callsOf
  rw [List.mem_flatten]
  constructor
  · intro hmem
    obtain ⟨l, hl, hmem⟩ := hmem
    obtain ⟨i', hi', rfl⟩ := List.mem_mapIdx.1 hl
    obtain ⟨j', hj', heq⟩ := List.mem_map.1 hmem
    obtain ⟨rfl, rfl⟩ := Prod.mk.inj heq
    exact ⟨rs[i'], List.getElem?_eq_getElem hi', List.mem_range.1 hj'⟩
  · intro hmem
    obtain ⟨xs, hxs, hj⟩ := hmem
    obtain ⟨hi, rfl⟩ := List.getElem?_eq_some_iff.1 hxs
    refine ⟨_, List.mem_mapIdx.2 ⟨i, hi, rfl⟩, ?_⟩
    exact List.mem_map.2 ⟨j, List.mem_range.2 hj, rfl⟩

theorem pairwise_callsOf (rs : List (List Tree)) :
    (callsOf rs).Pairwise fun p q => p.1 < q.1 ∨ p.1 = q.1 ∧ p.2 < q.2 := by
  unfold callsOf
  rw [List.pairwise_flatten]
  constructor
  · -- Within one action the results are counted up.
    intro l hl
    obtain ⟨i, hi, rfl⟩ := List.mem_mapIdx.1 hl
    rw [List.pairwise_map]
    apply List.pairwise_lt_range.imp
    intro j k hjk
    exact .inr ⟨rfl, hjk⟩
  · -- Between two actions their positions decide.
    rw [List.pairwise_iff_getElem]
    intro i k hi hk hik p hp q hq
    simp only [List.getElem_mapIdx, List.mem_map] at hp hq
    obtain ⟨_, _, rfl⟩ := hp
    obtain ⟨_, _, rfl⟩ := hq
    exact .inl hik

/-- `s.Yields as call x`: where `as` are the actions of `s`, the successor `x` is what the call by
    position leads to, with its action and its outcome. -/
structure Yields (s : State) (as : List Action) (call : Nat × Nat) (x : Successor) : Prop where
  action : as[call.1]? = some x.action
  outcome : x.outcome = call.2
  execute : s.execute (.index call.1) call.2 = .ok x.state

/-- The successors by one action go with its results. -/
theorem Offers.yields_results (h : s.Offers as rs) (ha : as[i]? = some a) (hxs : rs[i]? = some xs) :
    List.Forall₂ (s.Yields as) ((List.range xs.length).map (Prod.mk i))
      (xs.mapIdx fun j t => ⟨a, j, { s with tree := some t }⟩) := by
  rw [List.forall₂_iff_get]
  refine ⟨by simp, ?_⟩
  intro j hj hj'
  have hlt : j < xs.length := by simpa using hj
  have ht : xs[j]? = some xs[j] := List.getElem?_eq_getElem hlt
  simp only [List.get_eq_getElem, List.getElem_map, List.getElem_range, List.getElem_mapIdx]
  exact ⟨ha, rfl, h.execute_index_eq_ok_iff.2 ⟨xs, _, hxs, ht, rfl⟩⟩

/-- The successors are those of the calls by position, in their order. -/
theorem Offers.exists_successors (h : s.Offers as rs) :
    ∃ ls, s.successors = .ok ls ∧ List.Forall₂ (s.Yields as) (callsOf rs) ls := by
  obtain ⟨lists, hlists⟩ : ∃ lists, as.mapM s.successorsBy = .ok lists := by
    apply exists_mapM_eq_ok
    intro a ha
    obtain ⟨i, hi⟩ := List.getElem?_of_mem ha
    obtain ⟨xs, _, hresults⟩ := h.exists_results hi
    exact ⟨_, successorsBy_eq hresults⟩
  have hsuccessors : s.successors = .ok lists.flatten := by
    unfold successors
    rw [h.actions, ok_bind, hlists]
    rfl
  have heach := mapM_eq_ok_iff.1 hlists
  -- Both lists are put together action by action.
  refine ⟨lists.flatten, hsuccessors, List.rel_flatten ?_⟩
  rw [List.forall₂_iff_get]
  refine ⟨by rw [List.length_mapIdx, ← h.results.length_eq, heach.length_eq], ?_⟩
  intro i hrs hls
  have hi : i < as.length := by
    rw [heach.length_eq]
    exact hls
  have ha : as[i]? = some as[i] := List.getElem?_eq_getElem hi
  obtain ⟨xs, hxs, hresults⟩ := h.exists_results ha
  have hlist := Except.ok.inj ((heach.get hi hls).symm.trans (successorsBy_eq hresults))
  have hcalls : (rs.mapIdx fun i xs => (List.range xs.length).map (Prod.mk i)).get ⟨i, hrs⟩ =
      (List.range xs.length).map (Prod.mk i) := by
    obtain ⟨hi', rfl⟩ := List.getElem?_eq_some_iff.1 hxs
    simp
  rw [hlist, hcalls]
  exact h.yields_results ha hxs

end State

/-- Sound trees make a grammar. -/
theorem Grammar.exists_ofTrees {trees : List Tree} (h : ∀ t ∈ trees, t.Sound)
    (startLabel : String) : ∃ g, Grammar.ofTrees trees startLabel = .ok g := by
  obtain ⟨entries, hentries⟩ : ∃ entries, (trees.mapM fun t => return (← t.label, t)) =
      Except.ok (ε := Fault) entries := by
    apply exists_mapM_eq_ok
    intro t ht
    obtain ⟨label, hlabel⟩ := (h t ht).exists_label
    exact ⟨(label, t), by rw [hlabel]; rfl⟩
  refine ⟨⟨entries, startLabel⟩, ?_⟩
  unfold ofTrees
  rw [hentries]
  rfl

theorem Grammar.sound_of_ofTrees {trees : List Tree} {startLabel : String} {g : Grammar}
    (h : ∀ t ∈ trees, t.Sound) (hg : Grammar.ofTrees trees startLabel = .ok g) : g.Sound := by
  intro t ht
  obtain ⟨e, he, rfl⟩ := List.mem_map.1 ht
  exact h _ (Grammar.of_mem_ofTrees hg he).1

/-- **Agreement**: sound trees make a grammar, and a state over it that has no derivation or a sound
    one has actions and successors. The successors are those of the calls by position that succeed,
    ordered by the positions of action and outcome, each with its action, its outcome and the state
    that the call leads to. A call by value with a listed action gives what the call by its position
    gives. Every other call by position fails because its action or its outcome is out of range. A
    call that succeeds replaces the state, and one that fails leaves it. -/
theorem moves_agree {trees : List Tree} (htrees : ∀ t ∈ trees, t.Sound) (startLabel : String) :
    ∃ g, Grammar.ofTrees trees startLabel = .ok g ∧
      ∀ s : State, s.grammar = g → (∀ t, s.tree = some t → t.Sound) →
        ∃ as calls ls, s.actions = .ok as ∧ s.successors = .ok ls ∧
          (calls.Pairwise fun p q : Nat × Nat => p.1 < q.1 ∨ p.1 = q.1 ∧ p.2 < q.2) ∧
          (∀ i j, (i, j) ∈ calls ↔ ∃ s', s.execute (.index i) j = .ok s') ∧
          List.Forall₂ (s.Yields as) calls ls ∧
          (∀ i a, as[i]? = some a → ∀ j, s.execute (.action a) j = s.execute (.index i) j) ∧
          (∀ i j e, s.execute (.index i) j = .error e →
            (as.length ≤ i ∧ e = .refused (.actionOutOfRange i as.length)) ∨
            ∃ a results, as[i]? = some a ∧ s.outcomes a = .ok results ∧ results.length ≤ j ∧
              e = .refused (.outcomeOutOfRange j results.length)) ∧
          ∀ selection outcome, (State.perform selection outcome).run.run s =
            match s.execute selection outcome with
            | .ok s' => (.ok (), s')
            | .error e => (.error e, s) := by
  obtain ⟨g, hg⟩ := Grammar.exists_ofTrees htrees startLabel
  refine ⟨g, hg, ?_⟩
  intro s hgrammar htree
  have hsound : s.Sound := by
    refine ⟨?_, htree⟩
    rw [hgrammar]
    exact Grammar.sound_of_ofTrees htrees hg
  have hlabels : ∀ e ∈ s.grammar.entries, e.2.label = .ok e.1 := by
    intro e he
    rw [hgrammar] at he
    exact (Grammar.of_mem_ofTrees hg he).2
  obtain ⟨as, rs, hoffers⟩ := hsound.exists_offers
  obtain ⟨ls, hls, hall⟩ := hoffers.exists_successors
  refine ⟨as, State.callsOf rs, ls, hoffers.actions, hls, State.pairwise_callsOf rs, ?_, hall,
    fun i a ha => hoffers.execute_action ha hlabels,
    fun i j e => hoffers.refusal_of_execute_index, fun selection outcome => s.perform_run _ _⟩
  intro i j
  rw [State.mem_callsOf]
  constructor
  · intro hcall
    obtain ⟨xs, hxs, hj⟩ := hcall
    exact ⟨_, hoffers.execute_index_eq_ok_iff.2 ⟨xs, _, hxs, List.getElem?_eq_getElem hj, rfl⟩⟩
  · intro hcall
    obtain ⟨s', hs'⟩ := hcall
    obtain ⟨xs, t, hxs, ht, _⟩ := hoffers.execute_index_eq_ok_iff.1 hs'
    exact ⟨xs, hxs, (List.getElem?_eq_some_iff.1 ht).1⟩

/-- The clause, once it has started, takes the noun phrase as subject or as object; a third outcome
    and a second action are refused, and the state stays. -/
theorem moves_agree_clause :
    (∀ t ∈ [Tree.clause, Tree.noun], t.Sound) ∧
    Grammar.ofTrees [.clause, .noun] "S" = .ok clauseGrammar ∧
    ∃ (calls : List (Nat × Nat)) (ls : List Successor),
      State.successors ⟨some .clause, clauseGrammar⟩ = .ok ls ∧
      (0, 0) ∈ calls ∧ (0, 1) ∈ calls ∧ (0, 2) ∉ calls ∧ (1, 0) ∉ calls ∧
      calls.length = ls.length ∧
      (State.perform (.index 0) 2).run.run ⟨some .clause, clauseGrammar⟩ =
        (.error (.refused (.outcomeOutOfRange 2 2)), ⟨some .clause, clauseGrammar⟩) ∧
      (State.perform (.index 1) 0).run.run ⟨some .clause, clauseGrammar⟩ =
        (.error (.refused (.actionOutOfRange 1 1)), ⟨some .clause, clauseGrammar⟩) := by
  have hclause : Tree.clause.Sound := by decide
  have htrees : ∀ t ∈ [Tree.clause, Tree.noun], t.Sound := by
    intro t ht
    rcases List.mem_cons.1 ht with rfl | ht
    · exact hclause
    · rw [List.mem_singleton.1 ht]
      decide
  have hgrammar : Grammar.ofTrees [.clause, .noun] "S" = .ok clauseGrammar := by decide +kernel
  obtain ⟨g, hg, hstates⟩ := moves_agree htrees "S"
  obtain rfl := Except.ok.inj (hgrammar.symm.trans hg)
  obtain ⟨as, calls, ls, _, hls, _, hcalls, hall, _, _, hperform⟩ :=
    hstates ⟨some .clause, clauseGrammar⟩ rfl fun t ht => Option.some.inj ht ▸ hclause
  have hsubject : ∃ s', State.execute ⟨some .clause, clauseGrammar⟩ (.index 0) 0 = .ok s' :=
    ⟨⟨some .subjectClause, clauseGrammar⟩, by decide +kernel⟩
  have hobject : ∃ s', State.execute ⟨some .clause, clauseGrammar⟩ (.index 0) 1 = .ok s' :=
    ⟨⟨some .objectClause, clauseGrammar⟩, by decide +kernel⟩
  have houtcome : State.execute ⟨some .clause, clauseGrammar⟩ (.index 0) 2 =
      .error (.refused (.outcomeOutOfRange 2 2)) := by decide +kernel
  have haction : State.execute ⟨some .clause, clauseGrammar⟩ (.index 1) 0 =
      .error (.refused (.actionOutOfRange 1 1)) := by decide +kernel
  refine ⟨htrees, hgrammar, calls, ls, hls, (hcalls 0 0).2 hsubject, (hcalls 0 1).2 hobject, ?_, ?_,
    hall.length_eq, ?_, ?_⟩
  · simp [hcalls, houtcome]
  · simp [hcalls, haction]
  · rw [hperform, houtcome]
  · rw [hperform, haction]

end SpineGrammar
