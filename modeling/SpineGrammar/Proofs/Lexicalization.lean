import Mathlib.Algebra.BigOperators.Ring.List
import Mathlib.Algebra.Field.Rat
import Mathlib.Algebra.Order.Ring.Rat
import SpineGrammar.Derivation.Action
import SpineGrammar.Proofs.Anchoring

/-!
# One tree for each word

A record that has words comes to one tree for each of them, in the order of the words. Each is the
chain of the record with the word below its last node. Its root tells how often the word was seen
and how often any word was, so that the shares of the words add up to one.
-/

namespace SpineGrammar

/-- `b.Lexicalizes bottom word wordCount treeCount t`: the tree `t` is `b` with the word as the only
    child of the node `bottom` and with the two counts at the root. -/
structure Tree.Lexicalizes (b : Tree) (bottom : Nat) (word : String) (wordCount treeCount : Nat)
    (t : Tree) : Prop where
  root : t.root = b.root
  size : t.nodes.size = b.nodes.size
  node : ∀ k n, b.node k = .ok n → t.node k = .ok { n with
    children := if k = bottom then [.leaf word] else n.children
    wordCount := if k = b.root then wordCount else n.wordCount
    treeCount := if k = b.root then treeCount else n.treeCount }

/-- The value of a quotient of counts. -/
def Ratio.toRat (r : Ratio) : ℚ := r.num / r.den

/-- A word comes before another if it is less in the order of the code points. -/
def CodePointLess (word word' : String) : Prop :=
  word.toList.map Char.toNat < word'.toList.map Char.toNat

theorem SortedMap.pairwise_codePointLess {ν : Type} (m : SortedMap String ν) :
    m.keys.Pairwise CodePointLess := by
  unfold SortedMap.keys CodePointLess
  rw [List.pairwise_map]
  refine m.ascending.imp ?_
  intro e e' hless
  have hlist : e.1.toList < e'.1.toList := String.lt_iff.1 (compareOfLessAndEq_eq_lt.1 hless)
  exact List.map_lt (fun _ _ hchar => hchar) hlist

namespace TreeRecord

variable {r : TreeRecord} {index : Nat} {rules : List Rule} {b t : Tree}

/-! ## The end of the spine -/

/-- From any node of the chain the path of last children ends at the last node. -/
theorem Carries.lastBelow (h : r.Carries rules b) {length start : Nat}
    (hstart : start < b.nodes.size) (hlength : b.nodes.size ≤ start + length) :
    b.lastBelow length start = .ok (b.nodes.size - 1) := by
  induction length generalizing start with
  | zero => omega
  | succ length ih =>
    obtain ⟨label, hnode⟩ := h.exists_node hstart
    rw [Tree.lastBelow, hnode, ok_bind]
    unfold spineNode
    rw [← h.size]
    by_cases hnext : start + 1 < b.nodes.size
    · rw [if_pos hnext]
      exact ih hnext (by omega)
    · have hlast : start = b.nodes.size - 1 := by omega
      rw [if_neg hnext, hlast]
      rfl

theorem Carries.spineBottom (h : r.Carries rules b) :
    b.spineBottom = .ok (b.nodes.size - 1) := by
  unfold Tree.spineBottom
  exact h.lastBelow (h.root ▸ h.nonempty) (by omega)

/-- The last node of the chain is found below as many first children as there are other nodes, and
    it has no child. -/
theorem Carries.bottom (h : r.Carries rules b) :
    b.nodeAt (List.replicate (b.nodes.size - 1) 0) = .ok (some (b.nodes.size - 1)) ∧
      ∃ n, b.node (b.nodes.size - 1) = .ok n ∧ n.children = [] := by
  have hlt : b.nodes.size - 1 < b.nodes.size := Nat.sub_lt h.nonempty Nat.one_pos
  constructor
  · unfold Tree.nodeAt
    rw [h.root, h.resolve h.nonempty, List.length_replicate, Nat.zero_add, if_pos ⟨hlt, rfl⟩]
  · obtain ⟨label, hnode⟩ := h.exists_node hlt
    refine ⟨_, hnode, ?_⟩
    show (if b.nodes.size - 1 + 1 < r.spineLabels.length then _ else []) = ([] : List Child)
    rw [if_neg]
    rw [← h.size]
    omega

/-! ## A word below the end -/

/-- A word comes to the chain. -/
theorem Carries.exists_lexicalize (h : r.Carries rules b) (word : String)
    (wordCount treeCount : Nat) : ∃ t, lexicalize b word wordCount treeCount = .ok t ∧
      b.Lexicalizes (b.nodes.size - 1) word wordCount treeCount t := by
  have hlt : b.nodes.size - 1 < b.nodes.size := Nat.sub_lt h.nonempty Nat.one_pos
  have hroot : b.root < (b.nodes.modify (b.nodes.size - 1) (·.pushChild (.leaf word))).size := by
    rw [Array.size_modify, h.root]
    exact h.nonempty
  unfold lexicalize Tree.pushLeaf
  rw [h.spineBottom, ok_bind, Tree.update_eq_ok hlt, ok_bind, Tree.update_eq_ok hroot]
  refine ⟨_, rfl, rfl, by rw [Array.size_modify, Array.size_modify], ?_⟩
  intro k n hn
  rw [Tree.node_eq_ok_iff] at hn ⊢
  rw [Array.getElem?_modify, Array.getElem?_modify, hn]
  by_cases hbottom : b.nodes.size - 1 = k
  · -- The last node had no child before.
    obtain ⟨_, last, hlast, hempty⟩ := h.bottom
    rw [hbottom, Tree.node_eq_ok_iff, hn] at hlast
    obtain rfl := Option.some.inj hlast
    by_cases hk : b.root = k
    · simp [hbottom, hk, Node.pushChild, hempty]
    · simp [hbottom, hk, Ne.symm hk, Node.pushChild, hempty]
  · by_cases hk : b.root = k
    · simp [hbottom, Ne.symm hbottom, hk]
    · simp [hbottom, Ne.symm hbottom, hk, Ne.symm hk]

theorem Carries.lexicalizes (h : r.Carries rules b) {word : String} {wordCount treeCount : Nat}
    (ht : lexicalize b word wordCount treeCount = .ok t) :
    b.Lexicalizes (b.nodes.size - 1) word wordCount treeCount t := by
  obtain ⟨t', ht', hlexicalizes⟩ := h.exists_lexicalize word wordCount treeCount
  obtain rfl := Except.ok.inj (ht'.symm.trans ht)
  exact hlexicalizes

/-! ## All words -/

/-- The words of the record with their counts. -/
def entries (r : TreeRecord) : List (String × Nat) := (r.lexicon.map (·.entries)).getD []

/-- With words the sum of the counts is taken first, and then each word gets its tree. -/
theorem trees_eq_of_entries (hb : r.unlexicalized index = .ok b) (hwords : r.entries ≠ []) :
    r.trees index = Attempt.ofChecked (countSum (r.entries.map (·.2))) >>= fun total =>
      r.entries.mapM fun e => Attempt.ofChecked (lexicalize b e.1 e.2 total) := by
  have hsome : r.entries.isEmpty = false := by simpa using hwords
  unfold trees
  rw [hb, ok_bind]
  show (if r.entries.isEmpty then _ else
    (Attempt.ofChecked (countSum (r.entries.map (·.2))) >>= _)) = _
  rw [hsome, if_neg Bool.false_ne_true]
  rfl

/-- A record with words comes to one tree for each word. -/
theorem trees_of_entries (hb : r.unlexicalized index = .ok b) (hwords : r.entries ≠ [])
    (hfits : total (r.entries.map (·.2)) < countBound) : ∃ ts, r.trees index = .ok ts ∧
      List.Forall₂ (fun e t => b.Lexicalizes (b.nodes.size - 1) e.1 e.2
        (total (r.entries.map (·.2))) t) r.entries ts := by
  obtain ⟨_, rules, hcarries, _⟩ := carries_of_unlexicalized hb
  have hall : ∀ e ∈ r.entries, ∃ t, (Attempt.ofChecked (lexicalize b e.1 e.2
      (total (r.entries.map (·.2)))) : Attempt RecordError Tree) = .ok t := by
    intro e _
    obtain ⟨t, ht, _⟩ := hcarries.exists_lexicalize e.1 e.2 (total (r.entries.map (·.2)))
    exact ⟨t, ofChecked_eq_ok_iff.2 ht⟩
  obtain ⟨ts, hts⟩ := exists_mapM_eq_ok hall
  refine ⟨ts, ?_, ?_⟩
  · rw [trees_eq_of_entries hb hwords, countSum_eq_ok_iff.2 ⟨rfl, hfits⟩]
    exact hts
  · exact (mapM_eq_ok_iff.1 hts).imp fun e t ht => hcarries.lexicalizes (ofChecked_eq_ok_iff.1 ht)

/-- A record without words comes to the tree for its only word, or to the bare tree. -/
theorem trees_of_no_entries (hb : r.unlexicalized index = .ok b) (hwords : r.entries = []) :
    (∀ word, r.word = some word → ∃ t, r.trees index = .ok [t] ∧
      b.Lexicalizes (b.nodes.size - 1) word 1 1 t) ∧
    (r.word = none → r.trees index = .ok [b]) := by
  obtain ⟨_, rules, hcarries, _⟩ := carries_of_unlexicalized hb
  have hnone : r.entries.isEmpty = true := by rw [hwords, List.isEmpty_nil]
  constructor
  · intro word hword
    obtain ⟨t, ht, hlexicalizes⟩ := hcarries.exists_lexicalize word 1 1
    refine ⟨t, ?_, hlexicalizes⟩
    unfold trees
    rw [hb, ok_bind]
    show (if r.entries.isEmpty then _ else _) = _
    rw [if_pos hnone, hword]
    simp only [ht, ofChecked_ok, ok_bind, pure_eq_ok]
  · intro hword
    unfold trees
    rw [hb, ok_bind]
    show (if r.entries.isEmpty then _ else _) = _
    rw [if_pos hnone, hword]
    rfl

/-- The counts of the words add up to a count. -/
def CountsFit (r : TreeRecord) : Prop :=
  ∀ lexicon, r.lexicon = some lexicon → total lexicon.values < countBound

theorem CountsFit.total_entries (hfits : r.CountsFit) :
    total (r.entries.map (·.2)) < countBound := by
  unfold entries
  cases hlexicon : r.lexicon with
  | none => decide
  | some lexicon => exact hfits lexicon hlexicon

/-- A chain comes to trees if the counts fit. -/
theorem CountsFit.exists_trees (hfits : r.CountsFit) (hb : r.unlexicalized index = .ok b) :
    ∃ ts, r.trees index = .ok ts := by
  by_cases hwords : r.entries = []
  · obtain ⟨hword, hbare⟩ := trees_of_no_entries hb hwords
    cases hcase : r.word with
    | none => exact ⟨_, hbare hcase⟩
    | some word =>
      obtain ⟨t, ht, _⟩ := hword word hcase
      exact ⟨_, ht⟩
  · obtain ⟨ts, hts, _⟩ := trees_of_entries hb hwords hfits.total_entries
    exact ⟨ts, hts⟩

theorem trees_of_unlexicalized {halt : Halt RecordError}
    (h : r.unlexicalized index = .error halt) : r.trees index = .error halt := by
  unfold trees
  rw [h]
  rfl

/-- A record whose counts fit comes to trees or is refused. -/
theorem CountsFit.trees_outcome (hfits : r.CountsFit) (index : Nat) :
    (∃ ts, r.trees index = .ok ts) ∨ ∃ e, r.trees index = .error (.refused e) := by
  rcases unlexicalized_outcome r index with hok | herror
  · obtain ⟨b, _, hb, _⟩ := hok
    exact .inl (hfits.exists_trees hb)
  · obtain ⟨e, he⟩ := herror
    exact .inr ⟨e, trees_of_unlexicalized he⟩

/-- The trees of a record do not depend on where the record stands. -/
theorem trees_reindex {ts : List Tree} (h : r.trees index = .ok ts) (index' : Nat) :
    r.trees index' = .ok ts := by
  obtain ⟨b, hb, hts⟩ := bind_eq_ok_iff.1 h
  unfold trees
  rw [unlexicalized_reindex hb index', ok_bind]
  exact hts

end TreeRecord

/-! ## Counts -/

section Counts

variable {b t : Tree} {bottom wordCount treeCount : Nat} {word : String} {a : Action}

theorem Tree.Lexicalizes.weight (h : b.Lexicalizes bottom word wordCount treeCount a.tree)
    {n : Node} (hn : b.rootNode = .ok n) : a.weight = .ok wordCount := by
  unfold Action.weight Tree.rootNode
  rw [h.root, h.node _ n hn, ok_bind, if_pos rfl]
  rfl

theorem Tree.Lexicalizes.prior (h : b.Lexicalizes bottom word wordCount treeCount a.tree)
    {n : Node} (hn : b.rootNode = .ok n) (hcount : treeCount ≠ 0) :
    a.prior = .ok ⟨wordCount, treeCount⟩ := by
  unfold Action.prior Tree.rootNode
  rw [h.root, h.node _ n hn, ok_bind]
  simp only [if_true, if_neg hcount, pure_eq_ok]

theorem cast_total (counts : List Nat) :
    (total counts : ℚ) = (counts.map fun count : Nat => (count : ℚ)).sum := by
  induction counts with
  | nil => exact Nat.cast_zero
  | cons count counts ih => rw [total, Nat.cast_add, ih, List.map_cons, List.sum_cons]

/-- Shares of a sum that is not zero add up to one. -/
theorem sum_toRat_eq_one {counts : List Nat} (h : total counts ≠ 0) :
    (counts.map fun count => Ratio.toRat ⟨count, total counts⟩).sum = 1 := by
  have hne : (total counts : ℚ) ≠ 0 := Nat.cast_ne_zero.2 h
  unfold Ratio.toRat
  calc (counts.map fun count : Nat => (count : ℚ) / total counts).sum
      = (counts.map fun count : Nat => (count : ℚ)).sum / total counts := by
        simp only [div_eq_mul_inv, List.sum_map_mul_right]
    _ = 1 := by rw [← cast_total, div_self hne]

variable {entries : List (String × Nat)} {actions : List Action}

/-- The weights of the words are their counts. -/
theorem weights_of_lexicalizes {n : Node} (hn : b.rootNode = .ok n)
    (h : List.Forall₂ (fun e a => b.Lexicalizes bottom e.1 e.2 treeCount (Action.tree a))
      entries actions) : actions.mapM Action.weight = .ok (entries.map (·.2)) := by
  refine mapM_eq_ok_iff.2 (List.forall₂_map_right_iff.2 ?_)
  exact (h.imp fun e a hlexicalizes => hlexicalizes.weight hn).flip

/-- The priors of the words are the shares of their counts. -/
theorem priors_of_lexicalizes {n : Node} (hn : b.rootNode = .ok n) (hcount : treeCount ≠ 0)
    (h : List.Forall₂ (fun e a => b.Lexicalizes bottom e.1 e.2 treeCount (Action.tree a))
      entries actions) :
    actions.mapM Action.prior = .ok (entries.map fun e => ⟨e.2, treeCount⟩) := by
  refine mapM_eq_ok_iff.2 (List.forall₂_map_right_iff.2 ?_)
  exact (h.imp fun e a hlexicalizes => hlexicalizes.prior hn hcount).flip

end Counts

/-- **One tree for each word**: a record that comes to a chain and has words whose counts add up to
    a count comes to one tree for each word, in the order of their code points. Each is the chain
    with the word as the only child of its last node, and with the count of the word and the sum of
    the counts at its root. So the weights of the trees add up to the sum that each tells, and the
    priors to one if that is not zero. A record without words comes to one tree for its only word,
    with both counts one, or to the chain alone. -/
theorem TreeRecord.trees_fan_out {r : TreeRecord} {index : Nat} {b : Tree}
    (hb : r.unlexicalized index = .ok b) :
    ∃ bottom, bottom + 1 = r.spineLabels.length ∧
      b.nodeAt (List.replicate bottom 0) = .ok (some bottom) ∧ b.spineBottom = .ok bottom ∧
      (∀ lexicon, r.lexicon = some lexicon → lexicon.entries ≠ [] →
        total lexicon.values < countBound →
        ∃ ts, r.trees index = .ok ts ∧
          List.Forall₂ (fun e t => b.Lexicalizes bottom e.1 e.2 (total lexicon.values) t)
            lexicon.entries ts ∧
          lexicon.keys.Pairwise CodePointLess ∧
          ∀ actions : List Action, actions.map Action.tree = ts →
            (∃ weights, actions.mapM Action.weight = .ok weights ∧
              total weights = total lexicon.values) ∧
            (total lexicon.values ≠ 0 → ∃ priors, actions.mapM Action.prior = .ok priors ∧
              (priors.map Ratio.toRat).sum = 1)) ∧
      ((∀ lexicon, r.lexicon = some lexicon → lexicon.entries = []) →
        (∀ word, r.word = some word → ∃ t, r.trees index = .ok [t] ∧
          b.Lexicalizes bottom word 1 1 t) ∧
        (r.word = none → r.trees index = .ok [b])) := by
  obtain ⟨_, rules, hcarries, _⟩ := carries_of_unlexicalized hb
  refine ⟨b.nodes.size - 1, ?_, hcarries.bottom.1, hcarries.spineBottom, ?_, ?_⟩
  · rw [← hcarries.size]
    exact Nat.sub_add_cancel hcarries.nonempty
  · intro lexicon hlexicon hsome hfits
    have hentries : r.entries = lexicon.entries := by
      unfold entries
      rw [hlexicon]
      rfl
    have hsum : total (r.entries.map (·.2)) = total lexicon.values := by
      rw [hentries]
      rfl
    obtain ⟨ts, hts, hall⟩ := trees_of_entries hb (hentries ▸ hsome) (hsum ▸ hfits)
    rw [hsum, hentries] at hall
    refine ⟨ts, hts, hall, lexicon.pairwise_codePointLess, ?_⟩
    rintro actions rfl
    obtain ⟨label, hroot⟩ := hcarries.exists_node (hcarries.root ▸ hcarries.nonempty)
    have hactions := List.forall₂_map_right_iff.1 hall
    constructor
    · exact ⟨_, weights_of_lexicalizes hroot hactions, rfl⟩
    · intro hcount
      refine ⟨_, priors_of_lexicalizes hroot hcount hactions, ?_⟩
      have hone := sum_toRat_eq_one hcount
      unfold SortedMap.values at hone ⊢
      rw [List.map_map] at hone ⊢
      exact hone
  · intro hnone
    have hentries : r.entries = [] := by
      unfold entries
      cases hlexicon : r.lexicon with
      | none => rfl
      | some lexicon => exact hnone lexicon hlexicon
    exact trees_of_no_entries hb hentries

/-- A record of a verb phrase with two words. -/
def ranRecord : TreeRecord :=
  { verbRecord [] with lexicon := some (.ofList [("walked", 1), ("ran", 3)]) }

theorem trees_fan_out_ranRecord : ∃ b, ranRecord.unlexicalized 0 = .ok b ∧
    ∃ t u, ranRecord.trees 0 = .ok [t, u] ∧ b.Lexicalizes 1 "ran" 3 4 t ∧
      b.Lexicalizes 1 "walked" 1 4 u ∧
      ∃ priors, [Action.initial t, Action.substitute u].mapM Action.prior = .ok priors ∧
        (priors.map Ratio.toRat).sum = 1 := by
  obtain ⟨b, hb⟩ : ∃ b, ranRecord.unlexicalized 0 = .ok b := ⟨_, rfl⟩
  refine ⟨b, hb, ?_⟩
  obtain ⟨bottom, hlength, _, _, hwords, _⟩ := TreeRecord.trees_fan_out hb
  obtain rfl : bottom = 1 := by
    have htwo : ranRecord.spineLabels.length = 2 := by decide +kernel
    omega
  obtain ⟨ts, hts, hall, _, hcounts⟩ := hwords (.ofList [("walked", 1), ("ran", 3)]) rfl
    (by decide +kernel) (by decide +kernel)
  have hentries : (SortedMap.ofList [("walked", 1), ("ran", 3)]).entries =
      [("ran", 3), ("walked", 1)] := by decide +kernel
  have hsum : total (SortedMap.ofList [("walked", 1), ("ran", 3)]).values = 4 := by decide +kernel
  rw [hentries, hsum] at hall
  obtain ⟨t, ts, ht, hrest, rfl⟩ := List.forall₂_cons_left_iff.1 hall
  obtain ⟨u, ts, hu, hnone, rfl⟩ := List.forall₂_cons_left_iff.1 hrest
  obtain rfl := List.forall₂_nil_left_iff.1 hnone
  obtain ⟨_, hpriors⟩ := hcounts [.initial t, .substitute u] rfl
  exact ⟨t, u, hts, ht, hu, hpriors (by decide +kernel)⟩

end SpineGrammar
