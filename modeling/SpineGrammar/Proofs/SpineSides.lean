import SpineGrammar.Proofs.SurfaceOrder

/-!
# On which side of the spine an argument stands

The place of an argument is taken from the spine gap of the rule's owner and from the child count of
its target. An argument for the right comes behind all children of the target, so behind the one
that continues its spine. An argument for the left comes behind as many children as stand left of
the spine at the owner: it stands left of the target's spine child if the target has at least as
many children there, as it has if it is the owner itself.
-/

namespace SpineGrammar

namespace Tree

variable {t d c x : Tree} {r : Rule} {n host : Node} {owner target i k : Nat}

/-- Whether a child was attached, on whichever side. -/
def OffSpine (t : Tree) (ch : Child) : Prop := ∃ side, t.stance ch = .ok (some (true, side))

theorem OffSpine.not_onSpine {ch : Child} (h : t.OffSpine ch) : ¬ t.OnSpine ch := by
  obtain ⟨side, hoff⟩ := h
  rintro (hword | ⟨side', hnode⟩)
  · rw [hoff] at hword
    cases hword
  · rw [hoff] at hnode
    cases hnode

/-- The spine continues with the first child that was not attached. -/
theorem spineChildFrom_eq_some_iff {cs : List Child} :
    t.spineChildFrom i cs = .ok (some k) ↔
      ∃ j, k = i + j ∧ (∃ ch, cs[j]? = some ch ∧ t.OnSpine ch) ∧
        ∀ l < j, ∃ ch, cs[l]? = some ch ∧ t.OffSpine ch := by
  induction cs generalizing i with
  | nil => simp [spineChildFrom]
  | cons ch cs ih =>
    rw [spineChildFrom_cons]
    by_cases hoff : t.OffSpine ch
    · -- An attached child is passed over.
      obtain ⟨side, hstance⟩ := id hoff
      simp only [hstance, ok_bind]
      rw [ih]
      constructor
      · rintro ⟨j, rfl, hon, hbefore⟩
        refine ⟨j + 1, by omega, hon, ?_⟩
        intro l hl
        cases l with
        | zero => exact ⟨ch, rfl, hoff⟩
        | succ l => exact hbefore l (by omega)
      · rintro ⟨j, rfl, hon, hbefore⟩
        cases j with
        | zero =>
          obtain ⟨ch', hch', hon⟩ := hon
          obtain rfl : ch = ch' := Option.some.inj hch'
          exact absurd hon hoff.not_onSpine
        | succ j => exact ⟨j, by omega, hon, fun l hl => hbefore (l + 1) (by omega)⟩
    · -- Any other child ends the search, with itself or with a fault.
      have hfirst : ∀ j, (∀ l < j, ∃ ch', (ch :: cs)[l]? = some ch' ∧ t.OffSpine ch') → j = 0 := by
        intro j hbefore
        by_contra hj
        obtain ⟨ch', hch', hoff'⟩ := hbefore 0 (Nat.pos_of_ne_zero hj)
        obtain rfl : ch = ch' := Option.some.inj hch'
        exact hoff hoff'
      have hhead : t.spineChildFrom i (ch :: cs) = .ok (some k) ↔ t.OnSpine ch ∧ k = i := by
        rw [spineChildFrom_cons]
        cases hstance : t.stance ch with
        | error e =>
          have hfault : ¬ t.OnSpine ch := by simp [OnSpine, hstance]
          constructor
          · intro herror
            cases herror
          · rintro ⟨hon, _⟩
            exact absurd hon hfault
        | ok v =>
          rcases v with _ | ⟨_ | _, side⟩
          · simp [OnSpine, hstance, eq_comm]
          · simp [OnSpine, hstance, eq_comm]
          · exact absurd ⟨side, hstance⟩ hoff
      rw [← spineChildFrom_cons, hhead]
      constructor
      · rintro ⟨hon, rfl⟩
        exact ⟨0, rfl, ⟨ch, rfl, hon⟩, fun l hl => absurd hl (Nat.not_lt_zero l)⟩
      · rintro ⟨j, rfl, hon, hbefore⟩
        obtain rfl := hfirst j hbefore
        obtain ⟨ch', hch', hon⟩ := hon
        obtain rfl : ch = ch' := Option.some.inj hch'
        exact ⟨hon, rfl⟩

/-- A child more, attached before the `i`-th child, leaves the spine with the child that it went
    through: the new child is passed over if it comes first, and not reached otherwise. -/
theorem spineChildFrom_insertIdx {cs : List Child} {new : Child}
    (hkept : ∀ ch v, t.stance ch = .ok v → x.stance ch = .ok v) (hnew : x.OffSpine new)
    (hi : i ≤ cs.length) (h : t.spineChildFrom 0 cs = .ok (some k)) :
    x.spineChildFrom 0 (cs.insertIdx i new) = .ok (some (if k < i then k else k + 1)) := by
  obtain ⟨j, hj, ⟨ch, hch, hon⟩, hbefore⟩ := spineChildFrom_eq_some_iff.1 h
  obtain rfl : j = k := by omega
  have hon' : x.OnSpine ch := by
    rcases hon with hword | ⟨side, hnode⟩
    · exact .inl (hkept _ _ hword)
    · exact .inr ⟨side, hkept _ _ hnode⟩
  have hold : ∀ l < j, ∃ ch, cs[l]? = some ch ∧ x.OffSpine ch := by
    intro l hl
    obtain ⟨ch, hch, side, hoff⟩ := hbefore l hl
    exact ⟨ch, hch, side, hkept _ _ hoff⟩
  rw [spineChildFrom_eq_some_iff]
  -- The old spine child keeps its place if the new child comes behind it, and moves by one if not.
  by_cases hlt : j < i
  · refine ⟨j, by rw [if_pos hlt, Nat.zero_add], ⟨ch, ?_, hon'⟩, ?_⟩
    · rw [List.getElem?_insertIdx_of_lt hlt, hch]
    · intro l hl
      rw [List.getElem?_insertIdx_of_lt (by omega)]
      exact hold l hl
  · refine ⟨j + 1, by rw [if_neg hlt, Nat.zero_add], ⟨ch, ?_, hon'⟩, ?_⟩
    · rw [List.getElem?_insertIdx_of_gt (by omega), Nat.add_sub_cancel, hch]
    · intro l hl
      rcases Nat.lt_trichotomy l i with hless | rfl | hmore
      · rw [List.getElem?_insertIdx_of_lt hless]
        exact hold l (by omega)
      · -- The new child itself was attached, too.
        exact ⟨new, List.getElem?_insertIdx_self.trans (if_pos hi), hnew⟩
      · rw [List.getElem?_insertIdx_of_gt hmore]
        exact hold (l - 1) (by omega)

/-- At a node with a spine child the spine passes through this child. -/
theorem gap_of_spineChild? (hhost : t.node target = .ok host)
    (hk : t.spineChild? host = .ok (some k)) : t.gap target = .ok ⟨k, 1⟩ := by
  rw [gap, hhost, ok_bind, hk]
  rfl

theorem lt_length_of_spineChild? (hk : t.spineChild? host = .ok (some k)) :
    k < host.children.length := by
  obtain ⟨j, hj, ⟨ch, hch, _⟩, _⟩ := spineChildFrom_eq_some_iff.1 hk
  obtain ⟨hlt, _⟩ := List.getElem?_eq_some_iff.1 hch
  omega

/-- The copied root of the candidate is attached. -/
theorem offSpine_spliced_root (howner : owner < d.nodes.size) (htarget : target < d.nodes.size)
    (hc : c.Sound) : (d.spliced c r owner target i).OffSpine (.node (c.root + d.nodes.size)) := by
  obtain ⟨root, _, hroot⟩ := exists_node hc.root_lt
  have hcopy := node_spliced_add (r := r) (i := i) howner htarget hroot
  rw [if_pos rfl] at hcopy
  exact ⟨some r.slot, stance_node hcopy⟩

end Tree

/-! ## The side of the target's spine -/

/-- **Sides of the spine**: an argument leaves the spine of its target with the child that it went
    through. It stands behind this child if it was for the right. If it was for the left, it stands
    before this child if and only if the owner's own spine has no more children on its left than the
    target has before this child, as is the case if the owner is the target. -/
theorem slot_side_of_spine {d c x : Tree} {owner target k : Nat} {r : Rule} {host : Node}
    (hd : d.Sound) (hc : c.Sound) (h : d.Attaches c (owner, r) x)
    (htarget : d.resolve owner r.target = .ok (some target)) (hhost : d.node target = .ok host)
    (hk : d.spineChild? host = .ok (some k)) :
    ∃ gap host' before after, d.gap owner = .ok gap ∧ x.node target = .ok host' ∧
      host.children = before ++ after ∧
      host'.children = before ++ .node (c.root + d.nodes.size) :: after ∧
      x.spineChild? host' = .ok (some (if k < before.length then k else k + 1)) ∧
      (r.slot = .right → k < before.length) ∧
      (r.slot = .left → (before.length ≤ k ↔ gap.index ≤ k)) ∧
      (owner = target → gap.index = k) := by
  obtain ⟨n, hn, _⟩ := h.foremost hd hc
  obtain ⟨target', gap, m, i, htarget', hgap, hm, hi, rfl⟩ := Tree.exists_of_splice_eq_some h.result
  obtain rfl := Option.some.inj (Except.ok.inj (htarget.symm.trans htarget'))
  obtain rfl := Except.ok.inj (hhost.symm.trans hm)
  have hle : i ≤ host.children.length := SpineGap.position?_le hi
  have hlt := Tree.lt_length_of_spineChild? hk
  have hnew := Tree.offSpine_spliced_root (r := r) (i := i) (Tree.lt_of_node_eq_ok hn)
    (Tree.lt_of_node_eq_ok hhost) hc
  obtain ⟨before, after, hsplit, hlength, hinsert⟩ :=
    List.exists_of_modifyTailIdx (List.cons (Child.node (c.root + d.nodes.size))) hle
  obtain ⟨hside, hedge⟩ := SpineGap.position?_eq_some_iff.1 hi
  refine ⟨gap, _, before, after, hgap, Tree.node_spliced_of_lt hhost, hsplit, ?_, ?_, ?_, ?_, ?_⟩
  · exact (if_pos rfl).trans hinsert
  · rw [hlength, Tree.spineChild?, Node.afterInsertion, if_pos rfl]
    exact Tree.spineChildFrom_insertIdx (fun _ _ hv => Tree.stance_spliced hv) hnew hle hk
  · -- All children come before the argument.
    intro hright
    rw [hlength, hedge, hright]
    exact hlt
  · -- As many children come before the argument as the owner's gap lets stand on the left.
    intro hleft
    rw [hleft] at hside hedge
    simp only [SpineGap.side, SpineGap.sides] at hside
    simp only [Slot.edge] at hedge
    omega
  · rintro rfl
    rw [Tree.gap_of_spineChild? hhost hk, Except.ok.injEq] at hgap
    rw [← hgap]

/-- The clause's subject stands left of its verb phrase. -/
theorem slot_side_of_spine_clause :
    Tree.clause.Sound ∧ Tree.noun.Sound ∧
    Tree.clause.Attaches .noun (0, nounRule [] .left) .subjectClause ∧
    ∃ host, Tree.clause.node 0 = .ok host ∧ Tree.clause.spineChild? host = .ok (some 0) ∧
      ∃ gap host' before after, Tree.clause.gap 0 = .ok gap ∧
        Tree.subjectClause.node 0 = .ok host' ∧ host.children = before ++ after ∧
        host'.children = before ++ .node (0 + 2) :: after ∧
        Tree.subjectClause.spineChild? host' =
          .ok (some (if 0 < before.length then 0 else 0 + 1)) ∧
        (Slot.left = .right → 0 < before.length) ∧
        (Slot.left = .left → (before.length ≤ 0 ↔ gap.index ≤ 0)) ∧
        (0 = 0 → gap.index = 0) := by
  have hclause : Tree.clause.Sound := by decide
  have hnoun : Tree.noun.Sound := by decide
  have hattaches : Tree.clause.Attaches .noun (0, nounRule [] .left) .subjectClause := by
    decide +kernel
  have htarget : Tree.clause.resolve 0 (nounRule [] .left).target = .ok (some 0) := by
    decide +kernel
  have hhost : Tree.clause.node 0 =
      .ok (.plain "S" [nounRule [] .left, nounRule [0] .right] [.node 1]) := by decide +kernel
  have hk : Tree.clause.spineChild?
      (.plain "S" [nounRule [] .left, nounRule [0] .right] [.node 1]) = .ok (some 0) := by
    decide +kernel
  exact ⟨hclause, hnoun, hattaches, _, hhost, hk,
    slot_side_of_spine hclause hnoun hattaches htarget hhost hk⟩

/-- The rule for a second noun phrase, for the left below the second child. -/
def cliticRule : Rule := { nounRule [] .left with location := ⟨[1], .left, 1⟩ }

/-- A clause that has its subject and waits for a second noun phrase, for the left below its verb
    phrase. -/
def Tree.cliticClause : Tree where
  nodes := #[.plain "S" [cliticRule] [.node 2, .node 1],
    .plain "VP" [] [.leaf "chase"],
    { Node.plain "NP" [] [.leaf "cats"] with attached := true, attachedSlot := some .left }]
  root := 0

/-- The subject left of the clause's spine is counted in the verb phrase, so the second noun phrase
    comes behind the verb although it was for the left. -/
theorem not_forall_slot_names_side :
    ¬ ∀ (d c x : Tree) (owner target k : Nat) (r : Rule) (host : Node), d.Sound → c.Sound →
      d.Attaches c (owner, r) x → d.resolve owner r.target = .ok (some target) →
      d.node target = .ok host → d.spineChild? host = .ok (some k) →
      ∃ host' before after, x.node target = .ok host' ∧ host.children = before ++ after ∧
        host'.children = before ++ .node (c.root + d.nodes.size) :: after ∧
        (r.slot = .right → k < before.length) ∧ (r.slot = .left → before.length ≤ k) := by
  intro hall
  let x := Tree.cliticClause.spliced .noun cliticRule 0 1 1
  have hattaches : Tree.cliticClause.Attaches .noun (0, cliticRule) x := by decide +kernel
  have hnode : x.node 1 = .ok (.plain "VP" [] [.leaf "chase", .node 3]) := by decide +kernel
  obtain ⟨host', before, after, hhost', _, hchildren, _, hleft⟩ :=
    hall .cliticClause .noun x 0 1 0 cliticRule (.plain "VP" [] [.leaf "chase"]) (by decide)
      (by decide) hattaches (by decide +kernel) (by decide +kernel) (by decide +kernel)
  obtain rfl := Except.ok.inj (hnode.symm.trans hhost')
  obtain rfl := List.length_eq_zero_iff.1 (Nat.le_zero.1 (hleft rfl))
  cases hchildren

end SpineGrammar
