import SpineGrammar.Proofs.Traversal

/-!
# An entity is named by the first longest run of nouns below it

The scan for runs sees the words below a node in order, each with whether the node right above it is
labelled as a noun. These are the words at the addresses below the node, so the run that the scan
finds is a stretch of the sentence below the node, and the first of the longest that has nouns only.
-/

namespace SpineGrammar

namespace Tree

variable {t : Tree} {b : Branch} {start id i j l m : Nat} {n : Node} {above : Address}
  {ws : List (String × Bool)} {spots : List (Address × String)}

/-- `t.UnderNoun start a`: the node right above what is at the address `a`, taken from the node
    `start`, is labelled as a noun. -/
def UnderNoun (t : Tree) (start : Nat) (a : Address) : Prop :=
  ∃ above i id n, a = above.child i ∧ t.resolve start above = .ok (some id) ∧ t.node id = .ok n ∧
    n.label ∈ nounLabels

theorem underNoun_child_iff (habove : t.resolve start above = .ok (some id))
    (hn : t.node id = .ok n) : t.UnderNoun start (above.child i) ↔ n.label ∈ nounLabels := by
  constructor
  · intro h
    obtain ⟨above', i', id', n', heq, habove', hn', hlabel⟩ := h
    obtain ⟨rfl, -⟩ : above = above' ∧ i = i' := by simpa [Address.child] using heq
    obtain rfl : id = id' := by simpa [habove] using habove'
    obtain rfl : n = n' := by simpa [hn] using hn'
    exact hlabel
  · intro hlabel
    exact ⟨above, i, id, n, rfl, habove, hn, hlabel⟩

theorem resolve_child {next : Nat} (habove : t.resolve start above = .ok (some id))
    (hn : t.node id = .ok n) (hchild : n.children[i]? = some (.node next)) :
    t.resolve start (above.child i) = .ok (some next) := by
  unfold Address.child
  rw [resolve_append_of_eq_some habove]
  exact resolve_cons_eq_some_iff.2 ⟨n, next, hn, hchild, rfl⟩

/-! ## The words that the scan sees -/

/-- `t.Tags start w s`: the scan sees the word at an address as `w`, with the right tag. -/
structure Tags (t : Tree) (start : Nat) (w : String × Bool) (s : Address × String) : Prop where
  word : w.1 = s.2
  noun : w.2 = true ↔ t.UnderNoun start s.1

/-- The words of a forest are tagged by the node that it hangs below, and by its own nodes. -/
theorem Unfolds.tags {cs : List Child} {f : Forest} (h : t.Unfolds cs f)
    (habove : t.resolve start above = .ok (some id)) (hn : t.node id = .ok n)
    (hcs : ∀ j, n.children[i + j]? = cs[j]?) :
    List.Forall₂ (t.Tags start) (f.taggedWords (nounLabels.contains n.label))
      (f.wordSpots above i) := by
  induction h generalizing above id n i with
  | nil => exact .nil
  | leaf _ ih =>
    refine .cons ⟨rfl, ?_⟩ (ih habove hn ?_)
    · rw [underNoun_child_iff habove hn, List.contains_iff_mem]
    · intro j
      rw [Nat.add_assoc, Nat.add_comm 1 j]
      exact hcs (j + 1)
  | @node next n' cs below rest hnext _ _ ihbelow ihrest =>
    have hchild : n.children[i]? = some (.node next) := hcs 0
    refine List.rel_append (ihbelow (resolve_child habove hn hchild) hnext ?_)
      (ihrest habove hn ?_)
    · intro j
      rw [Nat.zero_add]
    · intro j
      rw [Nat.add_assoc, Nat.add_comm 1 j]
      exact hcs (j + 1)

theorem Holds.tags (h : t.Holds b) :
    List.Forall₂ (t.Tags b.id) b.taggedWords (b.below.wordSpots [] 0) := by
  apply h.below.tags rfl h.node
  intro j
  rw [Nat.zero_add]

/-! ## Stretches of nouns -/

/-- `t.NounStretch start spots i l`: there are `l` words from the `i`-th on, and each of them hangs
    directly under a noun. -/
structure NounStretch (t : Tree) (start : Nat) (spots : List (Address × String)) (i l : Nat) :
    Prop where
  inside : i + l ≤ spots.length
  under : ∀ k s, i ≤ k → k < i + l → spots[k]? = some s → t.UnderNoun start s.1

variable (htags : List.Forall₂ (t.Tags start) ws spots)

include htags

theorem isNounAt_iff_of_tags {k : Nat} :
    isNounAt ws k = true ↔ ∃ s, spots[k]? = some s ∧ t.UnderNoun start s.1 := by
  induction htags generalizing k with
  | nil => simp [isNounAt]
  | cons htag _ ih => cases k with
    | zero => simpa [isNounAt] using htag.noun
    | succ k => simpa [isNounAt] using ih

theorem allNouns_iff_of_tags (hl : 0 < l) : AllNouns ws i l ↔ t.NounStretch start spots i l := by
  have hlength := htags.length_eq
  constructor
  · intro h
    have hinside := h.le_length hl
    refine ⟨by omega, ?_⟩
    intro k s hk hlt hs
    obtain ⟨s', hs', hunder⟩ := (isNounAt_iff_of_tags htags).1 (h k hk hlt)
    obtain rfl : s = s' := by simpa [hs] using hs'
    exact hunder
  · intro h k hk hlt
    have hinside := h.inside
    have hs : spots[k]? = some spots[k] := List.getElem?_eq_getElem (by omega)
    exact (isNounAt_iff_of_tags htags).2 ⟨_, hs, h.under k _ hk hlt hs⟩

/-- The first longest run that the scan finds is the first longest stretch of nouns. -/
theorem nounStretch_of_firstLongest (h : FirstLongest ws i l) (hl : 0 < l) :
    t.NounStretch start spots i l ∧
      ∀ j m, t.NounStretch start spots j m → m ≤ l ∧ (m = l → i ≤ j) := by
  refine ⟨(allNouns_iff_of_tags htags hl).1 h.nouns, ?_⟩
  intro j m hstretch
  by_cases hm : 0 < m
  · have hlongest := h.longest j m hm ((allNouns_iff_of_tags htags hm).2 hstretch)
    omega
  · omega

/-- The scan finds no run if and only if no word hangs under a noun. -/
theorem firstLongest_zero_iff (h : FirstLongest ws i l) :
    l = 0 ↔ ∀ s ∈ spots, ¬ t.UnderNoun start s.1 := by
  constructor
  · intro hl s hs hunder
    obtain ⟨k, hk⟩ := List.mem_iff_getElem?.1 hs
    -- A single noun is a run already.
    have hone : AllNouns ws k 1 := by
      intro k' hle hlt
      obtain rfl : k = k' := by omega
      exact (isNounAt_iff_of_tags htags).2 ⟨s, hk, hunder⟩
    have hlongest := h.longest k 1 Nat.one_pos hone
    omega
  · intro hnone
    by_contra hl
    obtain ⟨s, hs, hunder⟩ := (isNounAt_iff_of_tags htags).1 (h.nouns i (Nat.le_refl i) (by omega))
    exact hnone s (List.mem_of_getElem? hs) hunder

theorem map_fst_of_tags : ws.map (·.1) = spots.map (·.2) := by
  induction htags with
  | nil => rfl
  | cons htag _ ih => rw [List.map_cons, List.map_cons, htag.word, ih]

omit htags

/-- What is found below a node that an address leads to. -/
theorem IsRootedTree.exists_nounName?_eq_ok (h : t.IsRootedTree) {a : Address}
    (ha : t.nodeAt a = .ok (some id)) : ∃ words spots i l, t.wordsUnder id = .ok words ∧
      t.ListsSpots id spots ∧ words = spots.map (·.2) ∧
      t.nounName? id =
        .ok (if l = 0 then none else some ("_".intercalate ((words.drop i).take l))) ∧
      (l = 0 ↔ ∀ s ∈ spots, ¬ t.UnderNoun id s.1) ∧
      (0 < l → t.NounStretch id spots i l ∧
        ∀ j m, t.NounStretch id spots j m → m ≤ l ∧ (m = l → i ≤ j)) := by
  obtain ⟨b, hb⟩ := h.exists_branchAt ha
  obtain ⟨rfl, hholds⟩ := holds_of_branchWithin hb
  obtain ⟨i, l, hrun, hfirst⟩ := exists_longestRun_eq_ok b.taggedWords
  have hwords : b.words = (b.below.wordSpots [] 0).map (·.2) :=
    (b.below.map_snd_wordSpots [] 0).symm
  refine ⟨b.words, b.below.wordSpots [] 0, i, l, ?_, hholds.listsSpots, hwords, ?_,
    firstLongest_zero_iff hholds.tags hfirst, nounStretch_of_firstLongest hholds.tags hfirst⟩
  · unfold wordsUnder
    rw [hb]
    rfl
  · unfold nounName?
    rw [hb, ok_bind, hrun, ok_bind, pure_eq_ok, hwords, ← map_fst_of_tags hholds.tags]
    simp only [List.isEmpty_map, hfirst.isEmpty_iff]
    rw [List.map_take, List.map_drop]

end Tree

/-- **Names of entities**: in a rooted tree, the scan below any address comes to an end without a
    fault. It finds no name if and only if the address leads to no node, or to one below which no
    word hangs directly under a noun. A name that it finds is made of a stretch of the words below
    the node, all of which hang directly under nouns; no such stretch is longer, and none that is as
    long starts earlier. -/
theorem entity_name_is_first_longest_stretch {t : Tree} (h : t.IsRootedTree) (a : Address) :
    ∃ name, t.nounNameAt? a = .ok name ∧
      (name = none ↔ t.nodeAt a = .ok none ∨ ∃ id, t.nodeAt a = .ok (some id) ∧
        ∀ w word, t.HasWord id w word → ¬ t.UnderNoun id w) ∧
      ∀ text, name = some text → ∃ id words spots i l, t.nodeAt a = .ok (some id) ∧
        t.wordsUnder id = .ok words ∧ t.ListsSpots id spots ∧ words = spots.map (·.2) ∧
        0 < l ∧ text = "_".intercalate ((words.drop i).take l) ∧ t.NounStretch id spots i l ∧
        ∀ j m, t.NounStretch id spots j m → m ≤ l ∧ (m = l → i ≤ j) := by
  obtain ⟨found, ha⟩ := h.exists_nodeAt a
  cases found with
  | none =>
    refine ⟨none, ?_, ?_, ?_⟩
    · unfold Tree.nounNameAt?
      rw [ha]
      rfl
    · simp [ha]
    · intro text hname
      cases hname
  | some id =>
    obtain ⟨words, spots, i, l, hwords, hspots, heq, hname, hzero, hpos⟩ :=
      h.exists_nounName?_eq_ok ha
    rw [Tree.nounNameAt?_of_nodeAt ha, ha]
    refine ⟨_, hname, ?_, ?_⟩
    · have hnone : l = 0 ↔ ∀ w word, t.HasWord id w word → ¬ t.UnderNoun id w := by
        simp [hzero, ← hspots.mem_iff]
      simp [hnone]
    · intro text hsome
      by_cases hl : l = 0
      · rw [if_pos hl] at hsome
        cases hsome
      · rw [if_neg hl] at hsome
        obtain ⟨hstretch, hlongest⟩ := hpos (by omega)
        exact ⟨id, words, spots, i, l, rfl, hwords, hspots, heq, by omega,
          (Option.some.inj hsome).symm, hstretch, hlongest⟩

/-- A phrase of two nouns with a conjunction between them, below a clause. -/
def Tree.pairClause : Tree where
  nodes := #[.plain "S" [] [.node 1],
    .plain "NP" [] [.node 2, .node 3, .node 4],
    .plain "NN" [] [.leaf "cat"],
    .plain "CC" [] [.leaf "and"],
    .plain "NN" [] [.leaf "dog"]]
  root := 0

/-- Of two runs of one length the first gives the name; where there is no noun or no node there is
    no name. -/
theorem entity_name_is_first_longest_stretch_pairClause :
    Tree.pairClause.IsRootedTree ∧
    (∃ id words spots i l, Tree.pairClause.nodeAt [0] = .ok (some id) ∧
      Tree.pairClause.wordsUnder id = .ok words ∧ Tree.pairClause.ListsSpots id spots ∧
      "cat" = "_".intercalate ((words.drop i).take l) ∧ Tree.pairClause.NounStretch id spots i l ∧
      ∀ j m, Tree.pairClause.NounStretch id spots j m → m ≤ l ∧ (m = l → i ≤ j)) ∧
    Tree.pairClause.nounNameAt? [0, 1] = .ok none ∧
    (∃ id, Tree.pairClause.nodeAt [0, 1] = .ok (some id) ∧
      ∀ w word, Tree.pairClause.HasWord id w word → ¬ Tree.pairClause.UnderNoun id w) ∧
    Tree.pairClause.nounNameAt? [7] = .ok none := by
  have htree : Tree.pairClause.IsRootedTree := by decide +kernel
  have hpair : Tree.pairClause.nounNameAt? [0] = .ok (some "cat") := by decide +kernel
  have hand : Tree.pairClause.nounNameAt? [0, 1] = .ok none := by decide +kernel
  have hnode : Tree.pairClause.nodeAt [0, 1] ≠ .ok none := by decide +kernel
  have hlost : Tree.pairClause.nounNameAt? [7] = .ok none := by decide +kernel
  obtain ⟨name, hname, _, hsome⟩ := entity_name_is_first_longest_stretch htree [0]
  obtain rfl := Except.ok.inj (hpair.symm.trans hname)
  obtain ⟨id, words, spots, i, l, hid, hwords, hspots, _, _, htext, hstretch, hlongest⟩ :=
    hsome "cat" rfl
  obtain ⟨name', hname', hnone, _⟩ := entity_name_is_first_longest_stretch htree [0, 1]
  obtain rfl := Except.ok.inj (hand.symm.trans hname')
  exact ⟨htree, ⟨id, words, spots, i, l, hid, hwords, hspots, htext, hstretch, hlongest⟩, hand,
    (hnone.1 rfl).resolve_left hnode, hlost⟩

end SpineGrammar
