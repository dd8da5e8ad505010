import SpineGrammar.Proofs.Turns

/-!
# Insertion refines rewriting

Told on the phrases that tables denote, `attach` is `Phrase.rewrites`: the levels of a branch are
the levels of its phrase, and what is inserted for a rule of the branch is what the rewriting step
at the owner's address gives. So the phrases of the results, and their order, depend on the phrases
of the two trees alone.
-/

namespace SpineGrammar

/-! ## Levels -/

/-- A branch at an address, seen as a phrase. -/
def Branch.seen (s : Address × Branch) : Address × Phrase := (s.1, s.2.phrase)

theorem Forest.nodes_phrases (f : Forest) (parent : Address) (i : Nat) :
    Phrase.nodes parent i f.phrases = (f.branches parent i).map Branch.seen := by
  induction f generalizing i with
  | nil => rfl
  | leaf word rest ih => exact ih (i + 1)
  | node id data below rest _ ih =>
    rw [phrases, Phrase.nodes, branches, List.map_cons, ih]
    rfl

theorem Forest.height_phrases (f : Forest) : Phrase.heightOfAll f.phrases = f.height := by
  induction f with
  | nil => rfl
  | leaf word rest ih =>
    rw [phrases, Phrase.heightOfAll, Phrase.height, ih, height, Nat.zero_max]
  | node id data below rest ihbelow ihrest =>
    rw [phrases, Phrase.heightOfAll, Phrase.height, ihbelow, ihrest, height]

theorem Forest.word_of_branch?_eq_none {f : Forest} {i : Nat} (h : f.branch? i = none)
    {p : Phrase} (hp : f.phrases[i]? = some p) : ∃ w, p = .word w := by
  induction f generalizing i with
  | nil => cases hp
  | leaf word rest ih => cases i with
    | zero => exact ⟨word, (Option.some.inj hp).symm⟩
    | succ i => exact ih h hp
  | node id data below rest _ ih => cases i with
    | zero => cases h
    | succ i => exact ih h hp

namespace Branch

variable {b s m : Branch} {a : Address} {r : Rule} {i : Nat}

theorem height_phrase (b : Branch) : b.phrase.height = b.height := by
  rw [phrase, Phrase.height, Forest.height_phrases, height]

/-- The levels of a phrase are those of the branch. -/
theorem level_phrase (b : Branch) (k : Nat) : b.phrase.level k = (b.level k).map seen := by
  induction k with
  | zero => rfl
  | succ k ih =>
    rw [Phrase.level, ih, level, List.flatMap_map, List.map_flatMap]
    congr 1
    funext s
    exact Forest.nodes_phrases s.2.below s.1 0

/-! ## Rewriting steps -/

theorem at?_phrase (h : b.at? a = some s) : b.phrase.at? a = some s.phrase := by
  induction a generalizing b with
  | nil =>
    obtain rfl : b = s := by simpa [at?] using h
    rw [Phrase.at?]
  | cons j a ih =>
    obtain ⟨c, hc, hs⟩ := at?_cons_eq_some_iff.1 h
    have hget := Forest.getElem?_phrases hc
    rw [phrase, Phrase.at?]
    simp only [hget]
    exact ih hs

/-- Where a branch has no node, its phrase has nothing or a word. -/
theorem at?_phrase_of_eq_none (h : b.at? a = none) {p : Phrase} (hp : b.phrase.at? a = some p) :
    ∃ w, p = .word w := by
  induction a generalizing b with
  | nil => cases h
  | cons j a ih =>
    rw [phrase, Phrase.at?] at hp
    rw [at?] at h
    cases hbranch : b.below.branch? j with
    | some c =>
      have hget := Forest.getElem?_phrases hbranch
      simp only [hbranch] at h
      simp only [hget] at hp
      exact ih h hp
    | none =>
      cases hpart : b.below.phrases[j]? with
      | none =>
        simp only [hpart] at hp
        cases hp
      | some q =>
        -- A word stands there, and below it nothing does.
        obtain ⟨w, rfl⟩ := Forest.word_of_branch?_eq_none hbranch hpart
        simp only [hpart] at hp
        cases a with
        | nil =>
          rw [Phrase.at?, Option.some.injEq] at hp
          exact ⟨w, hp.symm⟩
        | cons k a =>
          rw [Phrase.at?] at hp
          cases hp

theorem spliceAt_eq_some (h : b.Serves a r s m i) (p : Phrase) :
    b.phrase.spliceAt a r p =
      some ((b.phrase.modifyAt (Phrase.insertPart i (p.stamped r)) (a ++ r.target)).modifyAt
        (Phrase.withoutRule r) a) := by
  have hposition : Phrase.position? s.phrase m.phrase r = some i := h.position
  simp only [Phrase.spliceAt, at?_phrase h.owner, at?_phrase h.target, hposition,
    Option.bind_eq_bind, Option.bind_some, Option.pure_def]

theorem spliceAt_eq_none (hs : b.at? a = some s) (h : ∀ m i, ¬ b.Serves a r s m i) (p : Phrase) :
    b.phrase.spliceAt a r p = none := by
  have hposition : ∀ q, s.phrase.at? r.target = some q → Phrase.position? s.phrase q r = none := by
    intro q hq
    -- A target that is no node is a word, and nothing is inserted below a word.
    cases hm : s.at? r.target with
    | some m =>
      obtain rfl := Option.some.inj ((at?_phrase hm).symm.trans hq)
      rw [Option.eq_none_iff_forall_ne_some]
      exact fun i hi => h m i ⟨hs, hm, hi⟩
    | none =>
      obtain ⟨w, rfl⟩ := at?_phrase_of_eq_none hm hq
      rfl
  simp only [Phrase.spliceAt, at?_phrase hs, Option.bind_eq_bind, Option.bind_some]
  cases hq : s.phrase.at? r.target with
  | none => rfl
  | some q => simp only [Option.bind_some, hposition q hq, Option.bind_none]

/-- The rewriting steps of a phrase are those at the turns of the branch. -/
theorem rewrites_phrase (b : Branch) (p : Phrase) :
    b.phrase.rewrites p =
      (b.turns p.label).filterMap fun t => b.phrase.spliceAt t.1.address t.2 p := by
  simp only [Phrase.rewrites, height_phrase, level_phrase, turns, breadthFirst,
    List.filterMap_flatMap, List.flatMap_assoc, List.flatMap_map, List.filterMap_map]
  rfl

end Branch

/-! ## Results -/

namespace Tree

variable {d c : Tree} {b g : Branch}

/-- The phrase of a result is what the rewriting step gives. -/
theorem phrase_served (hdtree : d.IsTree) (hctree : c.IsTree) (hd : d.Denotes b)
    (hc : c.Denotes g) {t : Place × Rule} (ht : t ∈ b.turns g.data.label) :
    (d.served c b t).map Tree.phrase =
      (b.phrase.spliceAt t.1.address t.2 g.phrase).map .ok := by
  obtain ⟨a, s, hs, hplace, _⟩ := Branch.mem_turns.1 ht
  have haddress : t.1.address = a := by rw [hplace]
  cases hserve : d.served c b t with
  | some x =>
    obtain ⟨s', m, i, h, rfl⟩ := served_eq_some_iff.1 hserve
    have hdenotes := spliced_denotes hd hc h
    rw [Branch.spliceAt_eq_some h, Option.map_some, Option.map_some,
      hdenotes.phrase_eq (isTree_spliced hdtree hctree hd hc h),
      h.phrase_inserted hd.ids_nodup (hd.nodup_inserted hc h), Branch.phrase_argument]
  | none =>
    rw [Branch.spliceAt_eq_none (haddress ▸ hs)]
    · rfl
    · intro m i h
      rw [served_eq_some_iff.2 ⟨s, m, i, h, rfl⟩] at hserve
      cases hserve

/-- What `attach` lists are, in order, the rewriting steps of the phrase. -/
theorem map_phrase_attach (hdtree : d.IsTree) (hslot : d.Slotted) (hd : d.Denotes b)
    (hctree : c.IsTree) (hc : c.Denotes g) :
    ∃ xs, d.attach c = .ok xs ∧
      xs.map Tree.phrase = (b.phrase.rewrites g.phrase).map .ok := by
  refine ⟨_, attach_eq_ok hdtree hslot hd hctree hc, ?_⟩
  rw [List.map_filterMap, Branch.rewrites_phrase, List.map_filterMap]
  apply List.filterMap_congr
  intro t ht
  exact phrase_served hdtree hctree hd hc ht

end Tree

/-- **Refinement**: the phrases of what `attach` lists are, in order, those that rewriting lists for
    the phrases of the two trees. Trees with the same phrases give the same phrases in the same
    order, however their tables are laid out. -/
theorem attach_refines_rewriting {d c : Tree} (hd : d.IsTree) (hslot : d.Slotted)
    (hc : c.IsTree) :
    (∃ xs D C, d.attach c = .ok xs ∧ d.phrase = .ok D ∧ c.phrase = .ok C ∧
      xs.map Tree.phrase = (D.rewrites C).map .ok) ∧
    ∀ d' c' : Tree, d'.IsTree → d'.Slotted → c'.IsTree →
      d'.phrase = d.phrase → c'.phrase = c.phrase →
      ∃ xs xs', d.attach c = .ok xs ∧ d'.attach c' = .ok xs' ∧
        xs'.map Tree.phrase = xs.map Tree.phrase := by
  obtain ⟨b, _, hb⟩ := hd.exists_denotes
  obtain ⟨g, _, hg⟩ := hc.exists_denotes
  obtain ⟨xs, hxs, hphrases⟩ := Tree.map_phrase_attach hd hslot hb hc hg
  refine ⟨⟨xs, b.phrase, g.phrase, hxs, hb.phrase_eq hd, hg.phrase_eq hc, hphrases⟩, ?_⟩
  intro d' c' hd' hslot' hc' hdphrase hcphrase
  obtain ⟨b', _, hb'⟩ := hd'.exists_denotes
  obtain ⟨g', _, hg'⟩ := hc'.exists_denotes
  obtain ⟨xs', hxs', hphrases'⟩ := Tree.map_phrase_attach hd' hslot' hb' hc' hg'
  rw [hb'.phrase_eq hd', hb.phrase_eq hd, Except.ok.injEq] at hdphrase
  rw [hg'.phrase_eq hc', hg.phrase_eq hc, Except.ok.injEq] at hcphrase
  refine ⟨xs, xs', hxs, hxs', ?_⟩
  rw [hphrases', hphrases, hdphrase, hcphrase]

/-- The clause in another table, whose root comes last and which has a node without a parent. -/
def Tree.movedClause : Tree where
  nodes := #[.plain "X" [] [], .plain "VP" [] [.leaf "chase"],
    .plain "S" [nounRule [] .left, nounRule [0] .right] [.node 1]]
  root := 2

theorem attach_refines_rewriting_clause :
    (∃ xs D C, Tree.clause.attach .noun = .ok xs ∧ Tree.clause.phrase = .ok D ∧
      Tree.noun.phrase = .ok C ∧ xs.map Tree.phrase = (D.rewrites C).map .ok) ∧
    ∃ xs xs', Tree.clause.attach .noun = .ok xs ∧ Tree.movedClause.attach .noun = .ok xs' ∧
      xs'.map Tree.phrase = xs.map Tree.phrase := by
  have hclause : Tree.clause.IsTree := by decide
  have hslot : Tree.clause.Slotted := by decide
  have hnoun : Tree.noun.IsTree := by decide
  obtain ⟨hrewrites, hlayout⟩ := attach_refines_rewriting hclause hslot hnoun
  exact ⟨hrewrites, hlayout .movedClause .noun (by decide) (by decide) hnoun rfl rfl⟩

end SpineGrammar
