import SpineGrammar.Proofs.BracketedText
import SpineGrammar.Proofs.Lexicalization

/-!
# Spine notation and bracketed text

The labels of a spine are the words between brackets and blanks. So a text is a spine with given
labels if it has them in order and nothing but brackets and blanks around them, with at least one of
these between neighbours; where the brackets stand does not matter. The bracketed text of a chain is
such a text, apart from the marks of feet, which it leaves out. Read as a spine it gives the labels
again, and the chain of these labels has the same bracketed text.
-/

namespace SpineGrammar

/-! ## Texts with given labels -/

/-- The characters of a spine that no label has. -/
def isSpineMark (c : Char) : Bool := c == '(' || c == ')' || isBlank c

@[simp] theorem isSpineMark_open : isSpineMark '(' = true := rfl

@[simp] theorem isSpineMark_close : isSpineMark ')' = true := rfl

@[simp] theorem isSpineMark_blank : isSpineMark ' ' = true := by decide

@[simp] theorem isSpineMark_tab : isSpineMark '\t' = true := by decide

/-- A label that a spine can have. -/
def IsSpineLabel (label : String) : Prop :=
  label.toList ≠ [] ∧ ∀ c ∈ label.toList, isSpineMark c = false

instance (label : String) : Decidable (IsSpineLabel label) :=
  decidable_of_iff (label.toList ≠ [] ∧ label.toList.all (fun c => !isSpineMark c) = true)
    (and_congr_right fun _ => by simp)

/-- `IsSpine labels text`: the text has the labels in order, with nothing but brackets and blanks
    before, between and after them, and at least one of these between neighbours. -/
inductive IsSpine : List String → List Char → Prop where
  | last {label : String} (before after : List Char) :
      (∀ c ∈ before, isSpineMark c = true) → (∀ c ∈ after, isSpineMark c = true) →
      IsSpine [label] (before ++ (label.toList ++ after))
  | cons {label : String} {labels : List String} {text : List Char} (before between : List Char) :
      (∀ c ∈ before, isSpineMark c = true) → (∀ c ∈ between, isSpineMark c = true) →
      between ≠ [] → IsSpine labels text →
      IsSpine (label :: labels) (before ++ (label.toList ++ (between ++ text)))

/-- A bracket becomes a blank. -/
def unbracketed (c : Char) : Char := if c = '(' ∨ c = ')' then ' ' else c

theorem isBlank_unbracketed (c : Char) : isBlank (unbracketed c) = isSpineMark c := by
  unfold unbracketed isSpineMark
  by_cases hbracket : c = '(' ∨ c = ')'
  · rw [if_pos hbracket]
    have hblank : isBlank ' ' = true := by decide
    simp [hbracket, hblank]
  · rw [if_neg hbracket]
    rw [not_or] at hbracket
    simp [hbracket]

theorem unbracketed_of_not_mark {c : Char} (h : isSpineMark c = false) : unbracketed c = c := by
  have hletter : ¬ (c = '(' ∨ c = ')') := by
    intro hbracket
    rcases hbracket with rfl | rfl
    · cases h
    · cases h
  exact if_neg hletter

/-- Labels stay as they are. -/
theorem map_unbracketed {cs : List Char} (h : ∀ c ∈ cs, isSpineMark c = false) :
    cs.map unbracketed = cs := by
  rw [List.map_congr_left fun c hc => unbracketed_of_not_mark (h c hc), List.map_id']

/-- What stands around the labels becomes blank. -/
theorem isBlank_of_mem_map {cs : List Char} (h : ∀ c ∈ cs, isSpineMark c = true) :
    ∀ c ∈ cs.map unbracketed, isBlank c = true := by
  intro c hc
  obtain ⟨d, hd, rfl⟩ := List.mem_map.1 hc
  rw [isBlank_unbracketed, h d hd]

/-- A label between two gaps is a word. -/
theorem words_label {label : String} {before after : List Char} (hlabel : IsSpineLabel label)
    (hbefore : ∀ c ∈ before, isSpineMark c = true)
    (hafter : ∀ c ∈ after.head?, isSpineMark c = true) :
    words ((before ++ (label.toList ++ after)).map unbracketed) =
      label.toList :: words (after.map unbracketed) := by
  rw [List.map_append, words_blanks_append (isBlank_of_mem_map hbefore), List.map_append,
    map_unbracketed hlabel.2]
  apply words_word_append hlabel.1
  · intro c hc
    rw [← unbracketed_of_not_mark (hlabel.2 c hc), isBlank_unbracketed, hlabel.2 c hc]
  · intro c hc
    rw [List.head?_map] at hc
    obtain ⟨d, hd, rfl⟩ := Option.mem_map.1 hc
    rw [isBlank_unbracketed, hafter d hd]

theorem IsSpine.words_eq {labels : List String} {text : List Char} (h : IsSpine labels text)
    (hlabels : ∀ label ∈ labels, IsSpineLabel label) :
    words (text.map unbracketed) = labels.map String.toList := by
  induction h with
  | @last label before after hbefore hafter =>
    have hhead : ∀ c ∈ after.head?, isSpineMark c = true :=
      fun c hc => hafter c (List.mem_of_mem_head? hc)
    -- Only blanks are left, and they have no words.
    have hend : words (after.map unbracketed ++ []) = [] :=
      words_blanks_append (isBlank_of_mem_map hafter) []
    rw [List.append_nil] at hend
    rw [words_label (hlabels label List.mem_cons_self) hbefore hhead, hend]
    rfl
  | @cons label labels text before between hbefore hbetween hgap _ ih =>
    obtain ⟨hlabel, hlabels⟩ := List.forall_mem_cons.1 hlabels
    have hhead : ∀ c ∈ (between ++ text).head?, isSpineMark c = true := by
      intro c hc
      rw [List.head?_append_of_ne_nil _ hgap] at hc
      exact hbetween c (List.mem_of_mem_head? hc)
    rw [words_label hlabel hbefore hhead, List.map_append,
      words_blanks_append (isBlank_of_mem_map hbetween), ih hlabels]
    rfl

/-- What stands before the first label may start with one more bracket or blank. -/
theorem IsSpine.cons_mark {labels : List String} {text : List Char} {c : Char}
    (hc : isSpineMark c = true) (h : IsSpine labels text) : IsSpine labels (c :: text) := by
  cases h with
  | last before after hbefore hafter =>
    exact .last (c :: before) after (List.forall_mem_cons.2 ⟨hc, hbefore⟩) hafter
  | cons before between hbefore hbetween hgap hrest =>
    exact .cons (c :: before) between (List.forall_mem_cons.2 ⟨hc, hbefore⟩) hbetween hgap hrest

/-- A text without words has nothing but brackets and blanks. -/
theorem isSpineMark_of_words_eq_nil {text : List Char} (h : words (text.map unbracketed) = []) :
    ∀ c ∈ text, isSpineMark c = true := by
  induction text with
  | nil => simp
  | cons c text ih =>
    rw [words, List.map_cons, wordsFrom, isBlank_unbracketed] at h
    by_cases hc : isSpineMark c = true
    · rw [if_pos hc] at h
      exact List.forall_mem_cons.2 ⟨hc, ih h⟩
    · rw [if_neg hc] at h
      exact absurd h (wordsFrom_ne_nil (by simp) _)

/-- A text has its words as labels, where the letters of the first one may have been read already.
    The induction follows the reader. -/
theorem isSpine_of_wordsFrom {word text : List Char}
    (h : wordsFrom word (text.map unbracketed) ≠ []) :
    IsSpine ((wordsFrom word (text.map unbracketed)).map String.ofList) (word.reverse ++ text) := by
  induction text generalizing word with
  | nil =>
    rw [List.map_nil, wordsFrom] at h ⊢
    by_cases hempty : word.isEmpty = true
    · rw [if_pos hempty] at h
      exact absurd rfl h
    · have htext : word.reverse ++ [] = [] ++ ((String.ofList word.reverse).toList ++ []) := by
        rw [String.toList_ofList]
        rfl
      rw [if_neg hempty, htext]
      exact .last [] [] (by simp) (by simp)
  | cons c text ih =>
    rw [List.map_cons, wordsFrom, isBlank_unbracketed] at h ⊢
    by_cases hc : isSpineMark c = true
    · rw [if_pos hc] at h ⊢
      by_cases hempty : word = []
      · subst hempty
        exact (ih h).cons_mark hc
      · -- A label ends here, and it is the last one if no word is left.
        have htext : word.reverse ++ c :: text =
            [] ++ ((String.ofList word.reverse).toList ++ ([c] ++ text)) := by
          rw [String.toList_ofList]
          rfl
        rw [if_neg (by simpa using hempty), List.map_cons, htext]
        by_cases hrest : words (text.map unbracketed) = []
        · have hmarks := isSpineMark_of_words_eq_nil hrest
          unfold words at hrest
          rw [hrest]
          exact .last [] ([c] ++ text) (by simp) (List.forall_mem_cons.2 ⟨hc, hmarks⟩)
        · exact .cons [] [c] (by simp) (by simp [hc]) (by simp) (ih hrest)
    · have hletter : isSpineMark c = false := by simpa using hc
      have htext : word.reverse ++ c :: text = (c :: word).reverse ++ text := by simp
      rw [if_neg hc, unbracketed_of_not_mark hletter] at h ⊢
      rw [htext]
      exact ih h

namespace TreeRecord

variable {r : TreeRecord} {rules : List Rule} {t : Tree} {index : Nat}

/-- What is read off a spine are labels that a spine can have. -/
theorem isSpineLabel_of_mem {label : String} (h : label ∈ r.spineLabels) : IsSpineLabel label := by
  obtain ⟨word, hword, rfl⟩ := List.mem_map.1 h
  obtain ⟨hne, hblank⟩ := of_mem_words hword
  unfold IsSpineLabel
  rw [String.toList_ofList]
  refine ⟨hne, ?_⟩
  intro c hc
  -- The text that the words are taken from has no brackets.
  obtain ⟨d, _, hd⟩ := List.mem_map.1 (mem_of_mem_words hword hc)
  have hd' : unbracketed d = c := hd
  have hmark : isSpineMark d = false := by
    rw [← isBlank_unbracketed, hd', hblank c hc]
  rw [unbracketed_of_not_mark hmark] at hd'
  rw [← hd', hmark]

/-- The labels are read off the texts that have them as they should, and off no others. -/
theorem spineLabels_eq_iff {labels : List String} (hne : labels ≠ []) : r.spineLabels = labels ↔
    (∀ label ∈ labels, IsSpineLabel label) ∧ IsSpine labels r.spine.toList := by
  have hwords : r.spineLabels = (words (r.spine.toList.map unbracketed)).map String.ofList := rfl
  constructor
  · intro h
    refine ⟨fun label hlabel => isSpineLabel_of_mem (h ▸ hlabel), ?_⟩
    have hsome : words (r.spine.toList.map unbracketed) ≠ [] := by
      intro hnone
      rw [hwords, hnone] at h
      exact hne h.symm
    rw [← h]
    exact isSpine_of_wordsFrom hsome
  · intro h
    obtain ⟨hlabels, hspine⟩ := h
    rw [hwords, hspine.words_eq hlabels, List.map_map]
    simp [Function.comp_def]

end TreeRecord

/-! ## The text of a chain -/

/-- The bracketed text of a chain with these labels. -/
def bracketed : List String → String
  | [] => ""
  | [label] => "(" ++ label ++ ")"
  | label :: rest => "(" ++ label ++ " " ++ bracketed rest ++ ")"

theorem bracketed_cons {label : String} {rest : List String} (h : rest ≠ []) :
    bracketed (label :: rest) = "(" ++ label ++ " " ++ bracketed rest ++ ")" := by
  cases rest with
  | nil => exact absurd rfl h
  | cons next rest => rfl

/-- Closing brackets pile up at the end. -/
theorem isSpine_bracketed {labels : List String} (h : labels ≠ []) {after : List Char}
    (hafter : ∀ c ∈ after, isSpineMark c = true) :
    IsSpine labels ((bracketed labels).toList ++ after) := by
  have hopen : ∀ c ∈ ['('], isSpineMark c = true := by simp
  induction labels generalizing after with
  | nil => exact absurd rfl h
  | cons label rest ih =>
    have hclose : ∀ c ∈ ')' :: after, isSpineMark c = true :=
      List.forall_mem_cons.2 ⟨isSpineMark_close, hafter⟩
    by_cases hrest : rest = []
    · subst hrest
      have htext : (bracketed [label]).toList ++ after =
          ['('] ++ (label.toList ++ (')' :: after)) := by
        simp [bracketed]
      rw [htext]
      exact .last _ _ hopen hclose
    · have htext : (bracketed (label :: rest)).toList ++ after =
          ['('] ++ (label.toList ++ ([' '] ++ ((bracketed rest).toList ++ (')' :: after)))) := by
        simp [bracketed_cons hrest]
      rw [htext]
      exact .cons _ _ hopen (by simp) (by simp) (ih hrest hclose)

/-- The text of a node with one child. -/
theorem Branch.text_of_child (id id' : Nat) (n n' : Node) (below : Forest) :
    (⟨id, n, .node id' n' below .nil⟩ : Branch).text =
      "(" ++ n.label ++ " " ++ (⟨id', n', below⟩ : Branch).text ++ ")" := by
  simp [Branch.text, Forest.texts, String.append_assoc]

namespace TreeRecord

variable {r : TreeRecord} {rules : List Rule} {t : Tree} {index : Nat}

/-- The labels of the nodes: those of the spine without the marks of feet. -/
def nodeLabels (r : TreeRecord) : List String :=
  r.spineLabels.map fun label => (Node.ofLabel label).label

theorem nodeLabels_of_no_foot (h : ∀ label ∈ r.spineLabels, ¬ ∃ before, label = before ++ "^") :
    r.nodeLabels = r.spineLabels := by
  unfold nodeLabels
  have hsame : ∀ label ∈ r.spineLabels, (Node.ofLabel label).label = label := by
    intro label hlabel
    rcases Node.spells_ofLabel label with hfoot | hplain
    · exact absurd ⟨_, hfoot.2⟩ (h label hlabel)
    · exact hplain.2.1.symm
  rw [List.map_congr_left hsame, List.map_id']

/-- The part of a chain from a node on has the bracketed text of the labels from there on. The
    induction goes from the end of the chain up. -/
theorem Carries.text_of_unfolds (h : r.Carries rules t) {id : Nat} {n : Node} {below : Forest}
    (hid : id < t.nodes.size) (hn : t.node id = .ok n) (hbelow : t.Unfolds n.children below) :
    (⟨id, n, below⟩ : Branch).text = bracketed (r.nodeLabels.drop id) := by
  induction hleft : t.nodes.size - id generalizing id n below with
  | zero => omega
  | succ left ih =>
    have hlength : r.nodeLabels.length = t.nodes.size := by
      rw [nodeLabels, List.length_map, h.size]
    have hlt : id < r.spineLabels.length := h.size ▸ hid
    have hnode : t.node id = .ok (r.spineNode rules id r.spineLabels[id]) := by
      rw [Tree.node_eq_ok_iff, h.nodes, List.getElem?_eq_getElem hlt]
      rfl
    obtain rfl := Except.ok.inj (hn.symm.trans hnode)
    have hdrop : r.nodeLabels.drop id =
        (Node.ofLabel r.spineLabels[id]).label :: r.nodeLabels.drop (id + 1) := by
      rw [List.drop_eq_getElem_cons (hlength ▸ hid)]
      simp only [nodeLabels, List.getElem_map]
    rw [hdrop]
    unfold spineNode at hbelow
    by_cases hnext : id + 1 < r.spineLabels.length
    · -- The only child is the next node of the chain.
      rw [if_pos hnext] at hbelow
      cases hbelow with
      | node hchild hsub hrest =>
        cases hrest
        have hne : r.nodeLabels.drop (id + 1) ≠ [] := by
          rw [Ne, List.drop_eq_nil_iff, hlength, h.size]
          omega
        rw [Branch.text_of_child, ih (h.size ▸ hnext) hchild hsub (by omega), bracketed_cons hne]
        rfl
    · rw [if_neg hnext] at hbelow
      cases hbelow
      rw [List.drop_of_length_le (by rw [hlength, h.size]; omega)]
      rfl

/-- The text of a chain depends on the labels only. -/
theorem text_of_unlexicalized (h : r.unlexicalized index = .ok t) :
    t.text = .ok (bracketed r.nodeLabels) := by
  obtain ⟨_, rules, hcarries, _⟩ := carries_of_unlexicalized h
  obtain ⟨b, hunfold, hb⟩ := (linear_unlexicalized h).sound.toIsTree.isRootedTree.exists_denotes
  have hid : b.id = 0 := hb.root.trans hcarries.root
  have htext : b.text = bracketed (r.nodeLabels.drop b.id) :=
    hcarries.text_of_unfolds (hid ▸ hcarries.nonempty) hb.node hb.below
  rw [hid, List.drop_zero] at htext
  unfold Tree.text
  rw [hunfold, ← htext]
  rfl

/-- The bracketed text of a chain without feet, taken as a spine, has the labels of the chain. -/
theorem spineLabels_of_bracketed {r' : TreeRecord} (hspine : r.spineLabels ≠ [])
    (htext : r'.spine = bracketed r.spineLabels) : r'.spineLabels = r.spineLabels := by
  have hisSpine : IsSpine r.spineLabels ((bracketed r.spineLabels).toList ++ []) :=
    isSpine_bracketed hspine (by simp)
  rw [List.append_nil, ← htext] at hisSpine
  exact (spineLabels_eq_iff hspine).2 ⟨fun label hlabel => isSpineLabel_of_mem hlabel, hisSpine⟩

end TreeRecord

/-- **Spine notation**: given labels are read off a text if and only if each is a label that a spine
    can have and the text has them in order, with nothing but brackets and blanks around them and at
    least one of these between neighbours. A record that has labels, none of them the label of a
    foot, and whose rules can be read comes to a tree, which is the only one if the record has no
    words. Any record that has the bracketed text of this tree as its spine has the same labels, and
    if its rules can be read it comes to a tree with the same bracketed text. -/
theorem TreeRecord.spine_notation_agrees (r : TreeRecord) :
    (∀ labels, labels ≠ [] → (r.spineLabels = labels ↔
      (∀ label ∈ labels, IsSpineLabel label) ∧ IsSpine labels r.spine.toList)) ∧
    ∀ index, r.Readable → (∀ label ∈ r.spineLabels, ¬ ∃ before, label = before ++ "^") →
      ∃ t text, r.unlexicalized index = .ok t ∧ t.text = .ok text ∧
        (r.entries = [] → r.word = none → r.trees index = .ok [t]) ∧
        ∀ (r' : TreeRecord) (index' : Nat), r'.spine = text →
          r'.spineLabels = r.spineLabels ∧
          ((∀ record ∈ r'.rules, record.Readable) → ∃ t', r'.unlexicalized index' = .ok t' ∧
            t'.text = .ok text ∧
            (r'.entries = [] → r'.word = none → r'.trees index' = .ok [t'])) := by
  refine ⟨fun labels hne => spineLabels_eq_iff hne, ?_⟩
  intro index hreadable hfeet
  obtain ⟨t, ht⟩ := (readable_iff index).1 hreadable
  have htext : t.text = .ok (bracketed r.spineLabels) := by
    rw [text_of_unlexicalized ht, nodeLabels_of_no_foot hfeet]
  refine ⟨t, bracketed r.spineLabels, ht, htext,
    fun hentries => (trees_of_no_entries ht hentries).2, ?_⟩
  intro r' index' hspine
  have hlabels : r'.spineLabels = r.spineLabels := spineLabels_of_bracketed hreadable.1 hspine
  refine ⟨hlabels, ?_⟩
  intro hrules
  -- The labels are those of the first record, so there is a chain, and none of them is a foot.
  have hreadable' : r'.Readable := ⟨hlabels ▸ hreadable.1, hrules⟩
  obtain ⟨t', ht'⟩ := (readable_iff index').1 hreadable'
  refine ⟨t', ht', ?_, fun hentries => (trees_of_no_entries ht' hentries).2⟩
  rw [text_of_unlexicalized ht', nodeLabels_of_no_foot (hlabels ▸ hfeet), hlabels]

/-- A record with a rule for an adverb and with a given spine. -/
def spineRecord (spine : String) : TreeRecord :=
  { verbRecord [adverbRecord (.indices [0])] with spine := spine }

/-- Brackets that are not closed, or that close nothing, are brackets too. The text of the tree has
    them where they belong. -/
theorem spine_notation_agrees_verbs :
    IsSpine ["S", "VP", "VB"] "(S ( VP\t)VB".toList ∧
    (spineRecord "(S ( VP\t)VB").spineLabels = ["S", "VP", "VB"] ∧
    ∃ t t', (spineRecord "(S ( VP\t)VB").trees 0 = .ok [t] ∧ t.text = .ok "(S (VP (VB)))" ∧
      (spineRecord "(S (VP (VB)))").spineLabels = ["S", "VP", "VB"] ∧
      (spineRecord "(S (VP (VB)))").trees 1 = .ok [t'] ∧ t'.text = .ok "(S (VP (VB)))" := by
  have hspine : IsSpine ["S", "VP", "VB"] "(S ( VP\t)VB".toList :=
    .cons ['('] [' ', '(', ' '] (by simp) (by simp) (by simp)
      (.cons [] ['\t', ')'] (by simp) (by simp) (by simp)
        (.last [] [] (by simp) (by simp)))
  have hlabels : ∀ label ∈ ["S", "VP", "VB"], IsSpineLabel label := by decide
  have hrules : ∀ spine, ∀ record ∈ (spineRecord spine).rules, record.Readable := by
    intro spine record hrecord
    obtain rfl := List.mem_singleton.1 hrecord
    exact ⟨adverbRule [0], fun index => RuleRecord.toRule_eq_iff.1 rfl⟩
  obtain ⟨hread, hround⟩ := TreeRecord.spine_notation_agrees (spineRecord "(S ( VP\t)VB")
  have hfound := (hread ["S", "VP", "VB"] (by simp)).2 ⟨hlabels, hspine⟩
  have hfeet : ∀ label ∈ (spineRecord "(S ( VP\t)VB").spineLabels,
      ¬ ∃ before, label = before ++ "^" := by
    rw [hfound]
    intro label hlabel hfoot
    obtain ⟨before, rfl⟩ := hfoot
    have hlast : ∀ label ∈ ["S", "VP", "VB"], label.toList.getLast? ≠ some '^' := by decide
    exact hlast _ hlabel (by simp)
  have hreadable : (spineRecord "(S ( VP\t)VB").Readable := by
    refine ⟨?_, hrules _⟩
    rw [hfound]
    decide
  obtain ⟨t, text, ht, htext, htrees, hagain⟩ := hround 0 hreadable hfeet
  have hknown : ∃ t, (spineRecord "(S ( VP\t)VB").unlexicalized 0 = .ok t ∧
      t.text = .ok "(S (VP (VB)))" := by
    decide +kernel
  obtain ⟨t₁, ht₁, htext₁⟩ := hknown
  obtain rfl := Except.ok.inj (ht.symm.trans ht₁)
  obtain rfl := Except.ok.inj (htext.symm.trans htext₁)
  obtain ⟨hlabels', hagain⟩ := hagain (spineRecord "(S (VP (VB)))") 1 rfl
  obtain ⟨t', _, htext', htrees'⟩ := hagain (hrules _)
  exact ⟨hspine, hfound, t, t', htrees rfl rfl, htext, hlabels'.trans hfound, htrees' rfl rfl,
    htext'⟩

end SpineGrammar
