import SpineGrammar.Proofs.Phases

/-!
# Legal actions and their outcomes

An action that is taken by name has to be allowed: a start before the start and from the start
label, an insertion after it. What it can lead to is told without this check, except that nothing
can be inserted before the start. So the outcomes of an action are what taking it yields, unless it
is a start that is not allowed: this one has its own tree as an outcome and cannot be taken.
-/

namespace SpineGrammar

namespace State

/-- Whether an action may be taken: a start before the start and from the start label, an insertion
    after it. -/
def Allows (s : State) : Action → Prop
  | .initial t => s.tree = none ∧ t.label = .ok s.grammar.startLabel
  | .substitute _ => s.tree ≠ none

variable {s s' : State} {a a' : Action} {t : Tree} {label : String} {j : Nat}

/-- An action that is selected by name is picked if it is allowed. -/
theorem select_action_eq_ok_iff : s.select (.action a) = .ok a' ↔ s.Allows a ∧ a' = a := by
  cases hs : s.tree with
  | none =>
    rw [select_eq_ok_iff_of_eq_none hs]
    cases a with
    | initial t =>
      constructor
      · rintro ⟨t', ⟨ht, hlabel⟩, rfl⟩
        obtain rfl := Action.initial.inj ht
        exact ⟨⟨hs, hlabel⟩, rfl⟩
      · rintro ⟨⟨_, hlabel⟩, rfl⟩
        exact ⟨t, ⟨rfl, hlabel⟩, rfl⟩
    | substitute t =>
      constructor
      · rintro ⟨t', ⟨ht, _⟩, _⟩
        cases ht
      · rintro ⟨hstarted, _⟩
        exact absurd hs hstarted
  | some d =>
    obtain ⟨tree, grammar⟩ := s
    obtain rfl : tree = some d := hs
    rw [select, bind_eq_ok_iff]
    cases a with
    | initial t =>
      -- A second start is refused once its text is there, so the check never passes.
      constructor
      · rintro ⟨_, hlegal, _⟩
        obtain ⟨_, _, hrefused⟩ := bind_eq_ok_iff.1 hlegal
        cases hrefused
      · rintro ⟨⟨hempty, _⟩, _⟩
        cases hempty
    | substitute t =>
      constructor
      · rintro ⟨_, _, ha⟩
        exact ⟨Option.some_ne_none d, (Except.ok.inj ha).symm⟩
      · rintro ⟨_, rfl⟩
        exact ⟨(), rfl, rfl⟩

/-- Taking an action by name yields one of its outcomes, if the action is allowed. -/
theorem execute_action_eq_ok_iff : s.execute (.action a) j = .ok s' ↔ s.Allows a ∧
    ∃ xs t, s.outcomes a = .ok xs ∧ xs[j]? = some t ∧ s' = { s with tree := some t } := by
  rw [execute, bind_eq_ok_iff]
  constructor
  · rintro ⟨b, hb, h⟩
    obtain ⟨hallows, rfl⟩ := select_action_eq_ok_iff.1 hb
    obtain ⟨xs, hxs, h⟩ := bind_eq_ok_iff.1 h
    split at h
    · next t ht => exact ⟨hallows, xs, t, hxs, ht, (Except.ok.inj h).symm⟩
    · cases h
  · rintro ⟨hallows, xs, t, hxs, ht, rfl⟩
    refine ⟨a, select_action_eq_ok_iff.2 ⟨hallows, rfl⟩, ?_⟩
    rw [hxs, ok_bind, ht]
    rfl

/-- What taking an action by name yields are its outcomes, if the action is allowed. -/
theorem exists_execute_action_iff :
    (∃ s', s.execute (.action a) j = .ok s' ∧ s'.tree = some t) ↔
      s.Allows a ∧ ∃ xs, s.outcomes a = .ok xs ∧ xs[j]? = some t := by
  constructor
  · rintro ⟨s', hexecute, ht⟩
    obtain ⟨hallows, xs, t', hxs, ht', rfl⟩ := execute_action_eq_ok_iff.1 hexecute
    obtain rfl := Option.some.inj ht
    exact ⟨hallows, xs, hxs, ht'⟩
  · rintro ⟨hallows, xs, hxs, ht⟩
    exact ⟨_, execute_action_eq_ok_iff.2 ⟨hallows, xs, t, hxs, ht, rfl⟩, rfl⟩

/-- In a sound state an action has outcomes, unless it is an insertion before the start. -/
theorem Sound.exists_outcomes (h : s.Sound) (ha : a.tree.Sound) :
    s.outcomes a = Attempt.refuse .notStarted ∨ ∃ xs, s.outcomes a = .ok xs := by
  cases a with
  | initial t => exact .inr ⟨[t], rfl⟩
  | substitute t =>
    cases hs : s.tree with
    | none => exact .inl (outcomes_of_eq_none hs t)
    | some d =>
      obtain ⟨xs, hxs, _⟩ := (h.tree d hs).exists_attach ha
      have hattach : d.attach t = .ok xs := hxs
      exact .inr ⟨xs, by rw [outcomes_of_eq_some hs, hattach, ofChecked_ok]⟩

/-- `s.Agree a`: what taking the action `a` by name yields in `s` are its outcomes there. -/
def Agree (s : State) (a : Action) : Prop :=
  ∀ j t, (∃ s', s.execute (.action a) j = .ok s' ∧ s'.tree = some t) ↔
    ∃ xs, s.outcomes a = .ok xs ∧ xs[j]? = some t

theorem agree_iff : s.Agree a ↔ s.Allows a ∨ s.outcomes a = Attempt.refuse .notStarted := by
  constructor
  · intro hagree
    cases a with
    | initial t =>
      -- Taking the start would have to yield its one outcome.
      have hyielded := (hagree 0 t).2 ⟨[t], rfl, rfl⟩
      exact .inl (exists_execute_action_iff.1 hyielded).1
    | substitute t =>
      cases hs : s.tree with
      | none => exact .inr (outcomes_of_eq_none hs t)
      | some d =>
        have hstarted : s.tree ≠ none := by
          rw [hs]
          exact Option.some_ne_none d
        exact .inl hstarted
  · rintro (hallows | hrefused) j t
    · rw [exists_execute_action_iff]
      exact ⟨And.right, fun h => ⟨hallows, h⟩⟩
    · -- Neither side holds of an action that has no outcomes.
      rw [exists_execute_action_iff, hrefused]
      simp [Attempt.refuse]

/-- Before the start no derivation starts from another label. -/
theorem exists_execute_initial_of_label_ne (hs : s.tree = none) (ht : t.Sound)
    (hlabel : t.label = .ok label) (hne : label ≠ s.grammar.startLabel) (j : Nat) :
    ∃ text, s.execute (.action (.initial t)) j = Attempt.refuse (.notStartLabel text label) := by
  obtain ⟨text, htext⟩ := ht.exists_text
  obtain ⟨tree, grammar⟩ := s
  obtain rfl : tree = none := hs
  have haction : Action.text (.initial t) = .ok ("initial " ++ text) := by
    rw [Action.text, Action.tree, htext]
    rfl
  refine ⟨"initial " ++ text, ?_⟩
  simp only [execute, select, checkLegal, hlabel, haction, ofChecked_ok, ok_bind, if_neg hne]
  rfl

/-- A start that is not allowed is refused. -/
theorem exists_refusal_of_not_allows (ht : t.Sound) (hnot : ¬ s.Allows (.initial t)) (j : Nat) :
    ∃ text, s.execute (.action (.initial t)) j = Attempt.refuse (.alreadyStarted text) ∨
      ∃ label, s.execute (.action (.initial t)) j = Attempt.refuse (.notStartLabel text label) := by
  cases hs : s.tree with
  | none =>
    obtain ⟨label, hlabel⟩ := ht.exists_label
    have hne : label ≠ s.grammar.startLabel := by
      rintro rfl
      exact hnot ⟨hs, hlabel⟩
    obtain ⟨text, hrefused⟩ := exists_execute_initial_of_label_ne hs ht hlabel hne j
    exact ⟨text, .inr ⟨label, hrefused⟩⟩
  | some d =>
    obtain ⟨text, hrefused⟩ := exists_execute_initial hs ht j
    exact ⟨text, .inl hrefused⟩

end State

/-- **Outcomes and execution**: an action has outcomes or is refused because nothing was started.
    Taking it yields the outcome of the given number if the action is allowed, and fails otherwise.
    So outcomes and execution agree unless the action is a start that is not allowed, which has its
    tree as an outcome but is refused. -/
theorem execute_yields_outcomes_iff {s : State} {a : Action} (hs : s.Sound) (ha : a.tree.Sound) :
    (s.outcomes a = Attempt.refuse .notStarted ∨ ∃ xs, s.outcomes a = .ok xs) ∧
    (∀ j t, (∃ s', s.execute (.action a) j = .ok s' ∧ s'.tree = some t) ↔
      s.Allows a ∧ ∃ xs, s.outcomes a = .ok xs ∧ xs[j]? = some t) ∧
    (s.Agree a ↔ s.Allows a ∨ s.outcomes a = Attempt.refuse .notStarted) ∧
    ∀ t, a = .initial t → ¬ s.Allows a → s.outcomes a = .ok [t] ∧ ∀ j, ∃ text,
      s.execute (.action a) j = Attempt.refuse (.alreadyStarted text) ∨
        ∃ label, s.execute (.action a) j = Attempt.refuse (.notStartLabel text label) := by
  refine ⟨hs.exists_outcomes ha, fun j t => State.exists_execute_action_iff, State.agree_iff, ?_⟩
  rintro t rfl hnot
  exact ⟨rfl, State.exists_refusal_of_not_allows ha hnot⟩

/-- Before the start of a clause, a noun phrase is an outcome of the start from it, cannot be
    started from, and cannot be inserted. -/
theorem execute_yields_outcomes_iff_start :
    (State.start clauseGrammar).Sound ∧ Tree.noun.Sound ∧ Tree.clause.Sound ∧
    ¬ (State.start clauseGrammar).Agree (.initial .noun) ∧
    (State.start clauseGrammar).Agree (.initial .clause) ∧
    (State.start clauseGrammar).Agree (.substitute .noun) ∧
    (State.start clauseGrammar).outcomes (.initial .noun) = .ok [.noun] ∧
    ∀ j, ∃ text,
      (State.start clauseGrammar).execute (.action (.initial .noun)) j =
          Attempt.refuse (.alreadyStarted text) ∨
        ∃ label, (State.start clauseGrammar).execute (.action (.initial .noun)) j =
          Attempt.refuse (.notStartLabel text label) := by
  have hsound : (State.start clauseGrammar).Sound :=
    ⟨sound_clauseGrammar, fun t ht => nomatch ht⟩
  have hnoun : Tree.noun.Sound := by decide
  have hclause : Tree.clause.Sound := by decide
  have hnot : ¬ (State.start clauseGrammar).Allows (.initial .noun) := by
    rintro ⟨_, hlabel⟩
    revert hlabel
    decide +kernel
  obtain ⟨_, _, hagree, hrefused⟩ := execute_yields_outcomes_iff (a := .initial .noun) hsound hnoun
  obtain ⟨_, _, hstart, _⟩ := execute_yields_outcomes_iff (a := .initial .clause) hsound hclause
  obtain ⟨_, _, hinsert, _⟩ := execute_yields_outcomes_iff (a := .substitute .noun) hsound hnoun
  refine ⟨hsound, hnoun, hclause, ?_, ?_, hinsert.2 (.inr rfl), hrefused .noun rfl hnot⟩
  · rw [hagree]
    rintro (hallows | hrefusal)
    · exact hnot hallows
    · cases hrefusal
  · exact hstart.2 (.inl ⟨rfl, by decide +kernel⟩)

/-- A second start is refused, although its tree is an outcome. -/
theorem not_forall_outcomes_agree :
    ¬ ∀ (s : State) (a : Action), s.Sound → a.tree.Sound → ∀ j t,
      (∃ s', s.execute (.action a) j = .ok s' ∧ s'.tree = some t) ↔
        ∃ xs, s.outcomes a = .ok xs ∧ xs[j]? = some t := by
  intro hall
  have hclause : Tree.clause.Sound := by decide
  have hsound : State.Sound ⟨some .clause, clauseGrammar⟩ := by
    refine ⟨sound_clauseGrammar, ?_⟩
    rintro t ⟨⟩
    exact hclause
  obtain ⟨s', hexecute, _⟩ :=
    (hall _ (.initial .clause) hsound hclause 0 .clause).2 ⟨[.clause], rfl, rfl⟩
  obtain ⟨text, hrefused⟩ := State.exists_execute_initial
    (s := ⟨some .clause, clauseGrammar⟩) rfl hclause 0
  rw [hrefused] at hexecute
  cases hexecute

end SpineGrammar
